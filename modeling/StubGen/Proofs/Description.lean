/-
# `StubGen.Proofs.Description` — description values that break no line

A description breaks no line when no text in it, at any depth and keys included, holds a
line break (`Node.Unbroken`).  What the generator reads from such a description — a
field, an entry, a member, a text — breaks no line either, and the text that a value
shows breaks no line (`Node.Unbroken.display`): a text shows as itself, and every other
value in its quoted form, which breaks no line whatever the value holds
(`quoted_unbroken`), since a quoted text writes its line breaks as escapes and numbers
are written in digits.
-/
import StubGen.Proofs.Text.Unbroken
import StubGen.Node.Access
import StubGen.Node.Show

namespace StubGen

open Text (Point Unbroken)

/-! ## Numbers

A number is shown in digits, a point, a sign and the mark of its exponent, or as the text
of an infinity or a not-a-number; none of these breaks a line when the style's mark and
texts break none. -/

namespace Decimal

theorem padDigits_unbroken (width n : Nat) : Unbroken ((padDigits width n).map .char) := by
  rw [padDigits, List.map_append]
  exact (Unbroken.replicate_char rfl _).append (Text.toDigits_unbroken 10 n)

theorem Style.layout_unbroken (st : Style) (hmark : Text.isLineBreak (.char st.expMark) = false)
    (d : Dec) : Unbroken ((st.layout d).map .char) := by
  have hds := Text.toDigits_unbroken 10 d.digits
  have hzero := Unbroken.replicate (c := .char '0') rfl
  unfold Style.layout
  dsimp only
  split
  · split
    · simp [hds, hzero, Text.isLineBreak, Point.val]
    · split
      · split <;> simp [hds, hzero, Text.isLineBreak, Point.val]
      · simp [hds.take, hds.drop, Text.isLineBreak, Point.val]
  · -- scientific notation: the mantissa, the mark, the sign and the exponent's digits
    have hpad := padDigits_unbroken st.expWidth
    have hsign : Text.isLineBreak (.char '-') = false ∧ Text.isLineBreak (.char '+') = false ∧
        Text.isLineBreak (.char '.') = false := ⟨rfl, rfl, rfl⟩
    -- the mantissa's three shapes, then the sign's three
    split
    · split <;> (try split) <;> simp_all
    · split <;> (try split) <;> simp_all
    · rename_i c rest hcs
      rw [hcs] at hds
      split <;> (try split) <;> simp_all

theorem Style.render_unbroken (st : Style) (hmark : Text.isLineBreak (.char st.expMark) = false)
    (hinf : Unbroken (st.infinity.toList.map .char))
    (hnan : Unbroken (st.notANumber.toList.map .char)) (x : Float) :
    Unbroken ((st.render x).map .char) := by
  unfold Style.render
  split
  · exact hnan
  · rw [List.map_append]
    refine Unbroken.append ?_ hinf
    split <;> simp [Unbroken, Text.isLineBreak, Point.val]
  · rw [List.map_append]
    refine Unbroken.append ?_ (st.layout_unbroken hmark _)
    split <;> simp [Unbroken, Text.isLineBreak, Point.val]

end Decimal

namespace Node

/-! ## Values that break no line

`Node.Unbroken` says it by the shape of a value, and `breaksNoLine` decides it by the same
recursion (`unbroken_iff`).  A quoted form writes line breaks as escapes and numbers in
digits, so it breaks no line whatever the value holds. -/

/-- A description value none of whose texts, at any depth and keys included, holds a line
break. -/
inductive Unbroken : Node → Prop
  | null : Unbroken .null
  | bool (b : Bool) : Unbroken (.bool b)
  | int (n : Int) : Unbroken (.int n)
  | float (x : Float) : Unbroken (.float x)
  | text {s : List Point} : Text.Unbroken s → Unbroken (.text s)
  | list {items : List Node} : (∀ x ∈ items, Unbroken x) → Unbroken (.list items)
  | dict {entries : List (List Point × Node)} : (∀ e ∈ entries, Text.Unbroken e.1) →
      (∀ e ∈ entries, Unbroken e.2) → Unbroken (.dict entries)

mutual

/-- Whether no text of a value, at any depth and keys included, holds a line break. -/
def breaksNoLine : Node → Bool
  | .text s => decide (Text.Unbroken s)
  | .list items => itemsBreakNoLine items
  | .dict entries => entriesBreakNoLine entries
  | _ => true

def itemsBreakNoLine : List Node → Bool
  | [] => true
  | x :: xs => breaksNoLine x && itemsBreakNoLine xs

def entriesBreakNoLine : List (List Point × Node) → Bool
  | [] => true
  | (k, v) :: es => decide (Text.Unbroken k) && breaksNoLine v && entriesBreakNoLine es

end

mutual

theorem unbroken_iff : ∀ v : Node, v.Unbroken ↔ v.breaksNoLine = true
  | .null => ⟨fun _ => rfl, fun _ => .null⟩
  | .bool b => ⟨fun _ => rfl, fun _ => .bool b⟩
  | .int n => ⟨fun _ => rfl, fun _ => .int n⟩
  | .float x => ⟨fun _ => rfl, fun _ => .float x⟩
  | .text s => by
      rw [breaksNoLine, decide_eq_true_iff]
      exact ⟨fun | .text hs => hs, .text⟩
  | .list items => by
      rw [breaksNoLine, ← items_unbroken_iff items]
      exact ⟨fun | .list h => h, .list⟩
  | .dict entries => by
      rw [breaksNoLine, ← entries_unbroken_iff entries]
      exact ⟨fun | .dict hk hv => ⟨hk, hv⟩, fun h => .dict h.1 h.2⟩

theorem items_unbroken_iff :
    ∀ items : List Node, (∀ x ∈ items, x.Unbroken) ↔ itemsBreakNoLine items = true
  | [] => by simp [itemsBreakNoLine]
  | x :: xs => by
      simp [itemsBreakNoLine, unbroken_iff x, items_unbroken_iff xs]

theorem entries_unbroken_iff : ∀ entries : List (List Point × Node),
    ((∀ e ∈ entries, Text.Unbroken e.1) ∧ ∀ e ∈ entries, e.2.Unbroken) ↔
      entriesBreakNoLine entries = true
  | [] => by simp [entriesBreakNoLine]
  | (k, v) :: es => by
      simp only [entriesBreakNoLine, Bool.and_eq_true, decide_eq_true_iff, ← unbroken_iff v,
        ← entries_unbroken_iff es, List.forall_mem_cons]
      exact ⟨fun ⟨⟨hk, hks⟩, hv, hvs⟩ => ⟨⟨hk, hv⟩, hks, hvs⟩,
        fun ⟨⟨hk, hv⟩, hks, hvs⟩ => ⟨⟨hk, hks⟩, hv, hvs⟩⟩

end

instance : DecidablePred Node.Unbroken := fun v => decidable_of_iff _ (unbroken_iff v).symm

theorem intText_unbroken (n : Int) : Text.Unbroken ((intText n).map .char) := by
  rw [intText, List.map_append]
  refine Text.Unbroken.append ?_ (Text.toDigits_unbroken 10 _)
  split <;> simp [Text.Unbroken, Text.isLineBreak, Point.val]

theorem punctuation_not_lineBreak :
    Text.isLineBreak (.char '[') = false ∧ Text.isLineBreak (.char ']') = false ∧
      Text.isLineBreak (.char '\x7b') = false ∧ Text.isLineBreak (.char '\x7d') = false ∧
      Text.isLineBreak (.char ',') = false ∧ Text.isLineBreak (.char ':') = false ∧
      Text.isLineBreak (.char ' ') = false :=
  ⟨rfl, rfl, rfl, rfl, rfl, rfl, rfl⟩

mutual

/-- The quoted form of any value breaks no line. -/
theorem quoted_unbroken : ∀ v : Node, Text.Unbroken ((quoted v).map .char)
  | .null => by simp [quoted, Text.Unbroken, Text.isLineBreak, Point.val]
  | .bool true => by simp [quoted, Text.Unbroken, Text.isLineBreak, Point.val]
  | .bool false => by simp [quoted, Text.Unbroken, Text.isLineBreak, Point.val]
  | .int n => intText_unbroken n
  | .float x => Decimal.Style.render_unbroken floatStyle rfl
      (by simp [floatStyle, Text.Unbroken, Text.isLineBreak, Point.val])
      (by simp [floatStyle, Text.Unbroken, Text.isLineBreak, Point.val]) x
  | .text s => Text.quote_unbroken s
  | .list items => by
      have hitems := quotedItems_unbroken items
      simp [quoted, hitems, punctuation_not_lineBreak]
  | .dict entries => by
      have hentries := quotedEntries_unbroken entries
      simp [quoted, hentries, punctuation_not_lineBreak]

theorem quotedItems_unbroken : ∀ vs : List Node, Text.Unbroken ((quotedItems vs).map .char)
  | [] => Text.Unbroken.nil
  | [x] => quoted_unbroken x
  | x :: y :: rest => by
      have hx := quoted_unbroken x
      have hrest := quotedItems_unbroken (y :: rest)
      simp only [quotedItems, List.map_append, List.map_cons, Text.Unbroken.append_iff,
        Text.Unbroken.cons_iff, hx, hrest, punctuation_not_lineBreak, and_self]

theorem quotedEntries_unbroken :
    ∀ es : List (List Point × Node), Text.Unbroken ((quotedEntries es).map .char)
  | [] => Text.Unbroken.nil
  | [(k, v)] => by
      have hk := Text.quote_unbroken k
      have hv := quoted_unbroken v
      simp only [quotedEntries, List.map_append, List.map_cons, Text.Unbroken.append_iff,
        Text.Unbroken.cons_iff, hk, hv, punctuation_not_lineBreak, and_self]
  | (k, v) :: e :: rest => by
      have hk := Text.quote_unbroken k
      have hv := quoted_unbroken v
      have hrest := quotedEntries_unbroken (e :: rest)
      simp only [quotedEntries, List.map_append, List.map_cons, Text.Unbroken.append_iff,
        Text.Unbroken.cons_iff, hk, hv, hrest, punctuation_not_lineBreak, and_self]

end

/-! ## What is read from a value that breaks no line

Each accessor returns a part of the value, or its default, so what it reads breaks no line
when the value and the default break none. -/

namespace Unbroken

variable {v w : Node}

/-- What a value that breaks no line shows breaks no line. -/
theorem display (h : v.Unbroken) : Text.Unbroken v.display := by
  cases h with
  | text hs => exact hs
  | _ => exact quoted_unbroken _

theorem lookup {entries : List (List Point × Node)} (h : (Node.dict entries).Unbroken)
    {key : List Point} (hk : entries.lookup key = some w) : w.Unbroken := by
  cases h with
  | dict _ he =>
      obtain ⟨l₁, l₂, rfl, -⟩ := List.lookup_eq_some_iff.mp hk
      exact he _ (List.mem_append_right l₁ List.mem_cons_self)

theorem field (h : v.Unbroken) {key : String} (hf : v.field key = .ok w) : w.Unbroken := by
  cases v with
  | dict entries =>
      simp only [Node.field] at hf
      split at hf
      · cases hf
        exact h.lookup (by assumption)
      · cases hf
  | _ => simp [Node.field] at hf

theorem get (h : v.Unbroken) {key : String} {default : Node} (hd : default.Unbroken)
    (hg : v.get key default = .ok w) : w.Unbroken := by
  cases v with
  | dict entries =>
      simp only [Node.get, Except.ok.injEq] at hg
      subst hg
      cases hk : entries.lookup (Text.lit key) with
      | none => exact hd
      | some x => exact h.lookup hk
  | _ => simp [Node.get] at hg

theorem entries (h : v.Unbroken) {es : List (List Point × Node)} (he : v.entries = .ok es) :
    ∀ e ∈ es, Text.Unbroken e.1 ∧ e.2.Unbroken := by
  cases v with
  | dict entries =>
      simp only [Node.entries, Except.ok.injEq] at he
      subst he
      cases h with
      | dict hk hv => exact fun e he => ⟨hk e he, hv e he⟩
  | _ => simp [Node.entries] at he

theorem members (h : v.Unbroken) {ms : List Node} (hm : v.members = .ok ms) :
    ∀ m ∈ ms, m.Unbroken := by
  cases v with
  | text s =>
      simp only [Node.members, Except.ok.injEq] at hm
      subst hm
      intro m hm
      obtain ⟨c, hc, rfl⟩ := List.mem_map.mp hm
      cases h with
      | text hs => exact .text (Text.Unbroken.cons_iff.mpr ⟨hs c hc, Text.Unbroken.nil⟩)
  | list items =>
      simp only [Node.members, Except.ok.injEq] at hm
      subst hm
      cases h with
      | list h => exact h
  | dict entries =>
      simp only [Node.members, Except.ok.injEq] at hm
      subst hm
      intro m hm
      obtain ⟨e, he, rfl⟩ := List.mem_map.mp hm
      cases h with
      | dict hk _ => exact .text (hk e he)
  | _ => simp [Node.members] at hm

theorem asText (h : v.Unbroken) {use : String} {s : List Point} (hs : v.asText use = .ok s) :
    Text.Unbroken s := by
  cases v with
  | text t =>
      simp only [Node.asText, Except.ok.injEq] at hs
      subst hs
      cases h with
      | text h => exact h
  | _ => simp [Node.asText] at hs

end Unbroken

end Node

end StubGen
