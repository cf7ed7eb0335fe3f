/-
# `StubGen.Proofs.TypeTree` — the renderer reads the written form of a type tree

A type tree is written in a description as its head words, ` of ` and its arguments
separated by `, ` (`TypeTree.yaml`), and stands for a type of generated code
(`TypeTree.cpp`).  The renderer splits the written form once at ` of ` and then cuts all
the rest at every comma, whatever the nesting: so it reads back a tree exactly when no
argument of the tree holds a map, the only head with two arguments.

## What is proved, with every binder written out

    typeName_yaml_iff :
      ∀ {t : TypeTree}, t.WellFormed → ∀ {depth : Nat},
        CallDepth.fits (depth + 2 * t.height + 1) = true →
          (Generator.ready.typeName depth (.text (lit t.yaml)) = .ok (lit t.cpp) ↔
            ∀ a ∈ t.args, a.MapFree)

For a well-formed tree, asked for with room for the calls its nesting opens, the standard
tables render its written form as the type it stands for if and only if no map stands
below its root.  `nested_map_refused` is the smallest tree that needs the condition: a
list of maps, `List of Map of a, b`, is cut into `Map of a` and `b`, and the map with one
argument fails to fill its pattern.

## What it is NOT

It is not a statement about trees too deep for the calls they open: each level of nesting
opens two calls, and a tree nested past the limit fails for want of room
(`CallDepth`).  The room is a hypothesis of both directions; failing for want of it is
not failing to read.

## How it goes

The written head is read back word by word (`GoodWords.words_lit`), each marked word
`m-w` giving back `w` and the modifier `m` (`GoodWords.bases`, `GoodWords.modifierOf`),
and no ` of ` occurs in it, since no word is `of` (`GoodWords.splitFirst_ofSep`).  An
argument without a map holds no comma (`comma_not_mem_yaml`) and starts and ends with a
character that is no blank (`trim_yaml`), so the pieces of the arguments are their
written forms and the induction goes through; an argument with a map in it is cut before
its first comma, and the piece in front of that comma never renders (`firstPiece_fails`,
`fails_yaml`).
-/
import Mathlib
import StubGen.TypeTree
import StubGen.Proofs.TypeName
import StubGen.Proofs.Pattern
import StubGen.Proofs.Text.Split

namespace StubGen

open Text (Point lit IsWord)

/-! ## Strings as texts

The written form of a tree is a string, and the renderer works on texts; a string's
text is its characters, so joining strings and joining texts agree. -/

theorem List.map_intercalate {α β : Type} (f : α → β) (sep : List α) :
    ∀ xs : List (List α), (sep.intercalate xs).map f = (sep.map f).intercalate (xs.map (·.map f))
  | [] => rfl
  | [x] => by simp
  | x :: y :: rest => by
      have ih := List.map_intercalate f sep (y :: rest)
      simp only [List.map_cons] at ih ⊢
      rw [List.intercalate_cons_cons, List.intercalate_cons_cons, List.map_append,
        List.map_append, ih]

namespace Text

@[simp] theorem lit_append (a b : String) : lit (a ++ b) = lit a ++ lit b := by
  simp [lit]

theorem lit_intercalate (sep : String) (ws : List String) :
    lit (sep.intercalate ws) = (lit sep).intercalate (ws.map lit) := by
  rw [lit, String.toList_intercalate, List.map_intercalate, List.map_map]
  rfl

theorem lit_injective {a b : String} (h : lit a = lit b) : a = b := by
  apply String.toList_injective
  exact (List.map_inj_right fun _ _ h => Point.char.inj h).mp h

theorem mem_lit {c : Point} {s : String} : c ∈ lit s ↔ ∃ d ∈ s.toList, c = .char d := by
  simp [lit, eq_comm]

end Text

theorem TypeHead.ofSep_eq : TypeHead.ofSep = lit " of " := rfl

theorem TypeHead.ofSep_append_head (z : List Point) :
    ∀ c ∈ (TypeHead.ofSep ++ z).head?, Text.isBlank c = true := by
  intro c hc
  have hsep : TypeHead.ofSep ++ z = .char ' ' :: (lit "of " ++ z) := rfl
  rw [hsep, List.head?_cons, Option.mem_some_iff] at hc
  subst hc
  rfl

namespace TypeTree

/-! ## Written words

A good word is written as it is, and the word that carries the mark is written with the
mark's spelling and a hyphen in front.  Neither holds a blank, a comma or a percent sign,
and the hyphen is the only one in a marked word, so cutting at it gives back the word
and the modifier. -/

/-- The characters a spelling of a modifier may have: no blank, hyphen, comma or percent
sign. -/
def GoodChars (s : String) : Prop :=
  ∀ c ∈ s.toList, Text.isBlank c = false ∧ c ≠ '-' ∧ c ≠ ',' ∧ c ≠ '%'

theorem GoodWord.goodChars {w : String} (h : GoodWord w) : GoodChars w := h.2.2

theorem GoodChars.append {a b : String} (ha : GoodChars a) (hb : GoodChars b) :
    GoodChars (a ++ b) := by
  intro c hc
  rw [String.toList_append, List.mem_append] at hc
  rcases hc with hc | hc
  · exact ha c hc
  · exact hb c hc

theorem GoodChars.not_mem_lit {s : String} (h : GoodChars s) {d : Char}
    (hd : d = '-' ∨ d = ',' ∨ d = '%') : .char d ∉ lit s := by
  intro hm
  obtain ⟨c, hc, he⟩ := Text.mem_lit.mp hm
  cases he
  obtain ⟨-, h1, h2, h3⟩ := h d hc
  rcases hd with rfl | rfl | rfl
  · exact h1 rfl
  · exact h2 rfl
  · exact h3 rfl

theorem GoodChars.isBlank_false {s : String} (h : GoodChars s) :
    ∀ c ∈ lit s, Text.isBlank c = false := by
  intro c hc
  obtain ⟨d, hd, rfl⟩ := Text.mem_lit.mp hc
  exact (h d hd).1

theorem GoodWord.isWord {w : String} (h : GoodWord w) : IsWord (lit w) := by
  refine ⟨?_, h.goodChars.isBlank_false⟩
  intro he
  apply h.1
  apply Text.lit_injective
  rw [he]
  rfl

theorem GoodWord.unmodify {w : String} (h : GoodWord w) :
    TypeHead.unmodify (lit w) = (lit w, none) := by
  have hs : Text.splitOn (.char '-') (lit w) = [lit w] := by
    rw [Text.splitOn_eq_listSplitOn]
    exact List.splitOn_eq_singleton (h.goodChars.not_mem_lit (.inl rfl))
  simp [TypeHead.unmodify, hs]

theorem GoodWord.unmodify_marked {w sp : String} (h : GoodWord w) (hsp : GoodChars sp) :
    TypeHead.unmodify (lit (sp ++ "-" ++ w)) = (lit w, some (lit sp)) := by
  have hs : Text.splitOn (.char '-') (lit (sp ++ "-" ++ w)) = [lit sp, lit w] := by
    rw [Text.splitOn_eq_listSplitOn, Text.lit_append, Text.lit_append,
      show lit "-" = [.char '-'] from rfl, List.append_assoc, List.singleton_append,
      List.splitOn_append_cons_self_of_not_mem (hsp.not_mem_lit (.inl rfl)),
      List.splitOn_eq_singleton (h.goodChars.not_mem_lit (.inl rfl))]
  unfold TypeHead.unmodify
  rw [hs]

theorem GoodWord.isWord_marked {w sp : String} (h : GoodWord w) (hsp : GoodChars sp) :
    IsWord (lit (sp ++ "-" ++ w)) := by
  refine ⟨by simp [Text.lit], fun c hc => ?_⟩
  rw [Text.lit_append, Text.lit_append, List.mem_append, List.mem_append] at hc
  rcases hc with (hc | hc) | hc
  · exact hsp.isBlank_false c hc
  · rw [show lit "-" = [.char '-'] from rfl, List.mem_singleton] at hc
    rw [hc]
    decide
  · exact h.goodChars.isBlank_false c hc

/-! ## The written head

`GoodWords.written_eq` says where the mark goes: nowhere, or in front of one word.  The
rest of the section reads the written head back through it. -/

section Written

variable {words : List String} {mark : Option Mark}

theorem GoodWords.goodChars_spelling {m : Mark} (h : GoodWords words mark)
    (hm : mark = some m) : GoodChars m.spelling :=
  (h.2.2 m hm).2.2

theorem GoodWords.written_eq (h : GoodWords words mark) :
    (mark = none ∧ markWords words mark = words) ∨
      ∃ m l₁ a l₂, mark = some m ∧ words = l₁ ++ a :: l₂ ∧
        markWords words mark = l₁ ++ (m.spelling ++ "-" ++ a) :: l₂ := by
  cases mark with
  | none => exact .inl ⟨rfl, rfl⟩
  | some m =>
      obtain ⟨l₁, a, l₂, hw, -, hmod⟩ :=
        List.exists_of_modify (fun w => m.spelling ++ "-" ++ w) (h.2.2 m rfl).1
      exact .inr ⟨m, l₁, a, l₂, rfl, hw, hmod⟩

theorem GoodWords.written (h : GoodWords words mark) :
    ∀ w ∈ markWords words mark,
      GoodWord w ∨ ∃ m v, mark = some m ∧ GoodWord v ∧ w = m.spelling ++ "-" ++ v := by
  intro w hw
  rcases h.written_eq with ⟨-, he⟩ | ⟨m, l₁, a, l₂, hm, hws, he⟩
  · rw [he] at hw
    exact .inl (h.2.1 w hw)
  · rw [he, List.mem_append, List.mem_cons] at hw
    have hgood : ∀ v ∈ l₁ ++ l₂, GoodWord v := fun v hv => h.2.1 v (by
      rw [hws]
      rcases List.mem_append.mp hv with hv | hv
      · exact List.mem_append_left _ hv
      · exact List.mem_append_right _ (List.mem_cons_of_mem a hv))
    rcases hw with hw | hw | hw
    · exact .inl (hgood w (List.mem_append_left _ hw))
    · exact .inr ⟨m, a, hm, h.2.1 a (by simp [hws]), hw⟩
    · exact .inl (hgood w (List.mem_append_right _ hw))

theorem GoodWords.isWord (h : GoodWords words mark) :
    ∀ w ∈ markWords words mark, IsWord (lit w) := by
  intro w hw
  rcases h.written w hw with hg | ⟨m, v, hm, hv, rfl⟩
  · exact hg.isWord
  · exact hv.isWord_marked (h.goodChars_spelling hm)

theorem GoodWords.goodChars_written (h : GoodWords words mark) :
    ∀ w ∈ markWords words mark, ∀ c ∈ lit w, Text.isBlank c = false ∧
      c ≠ .char ',' ∧ c ≠ .char '%' := by
  intro w hw c hc
  have hnot : ∀ s : String, GoodChars s → c ∈ lit s →
      Text.isBlank c = false ∧ c ≠ .char ',' ∧ c ≠ .char '%' := fun s hs hcs =>
    ⟨hs.isBlank_false c hcs, fun he => hs.not_mem_lit (.inr (.inl rfl)) (he ▸ hcs),
      fun he => hs.not_mem_lit (.inr (.inr rfl)) (he ▸ hcs)⟩
  rcases h.written w hw with hg | ⟨m, v, hm, hv, rfl⟩
  · exact hnot w hg.goodChars hc
  · rw [Text.lit_append, Text.lit_append, List.mem_append, List.mem_append] at hc
    rcases hc with (hc | hc) | hc
    · exact hnot _ (h.goodChars_spelling hm) hc
    · rw [show lit "-" = [.char '-'] from rfl, List.mem_singleton] at hc
      subst hc
      exact ⟨by decide, by decide, by decide⟩
    · exact hnot v hv.goodChars hc

theorem GoodWords.ne_of (h : GoodWords words mark) :
    ∀ w ∈ markWords words mark, lit w ≠ lit "of" := by
  intro w hw he
  rcases h.written w hw with hg | ⟨m, v, hm, hv, rfl⟩
  · exact hg.2.1 (Text.lit_injective he)
  · have : Point.char '-' ∈ lit "of" := by
      rw [← he, Text.lit_append, Text.lit_append]
      simp [Text.lit]
    revert this
    decide

/-- The head words read back from the written head, without the mark. -/
theorem GoodWords.bases (h : GoodWords words mark) :
    (markWords words mark).map (fun w => (TypeHead.unmodify (lit w)).1) = words.map lit := by
  have hgood : ∀ l : List String, (∀ v ∈ l, GoodWord v) →
      l.map (fun w => (TypeHead.unmodify (lit w)).1) = l.map lit := fun l hl =>
    List.map_congr_left fun v hv => by rw [(hl v hv).unmodify]
  rcases h.written_eq with ⟨-, he⟩ | ⟨m, l₁, a, l₂, hm, hws, he⟩
  · rw [he]
    exact hgood words h.2.1
  · have hw : ∀ v ∈ words, GoodWord v := h.2.1
    rw [hws] at hw
    rw [he, hws, List.map_append, List.map_append, List.map_cons, List.map_cons,
      hgood l₁ fun v hv => hw v (List.mem_append_left _ hv),
      hgood l₂ fun v hv => hw v (List.mem_append_right _ (List.mem_cons_of_mem a hv)),
      (hw a (by simp)).unmodify_marked (h.goodChars_spelling hm)]

/-- The modifier read back from the written head is the mark's spelling. -/
theorem GoodWords.modifierOf (h : GoodWords words mark) :
    TypeHead.modifierOf ((markWords words mark).map lit) = mark.map fun m => lit m.spelling := by
  have hnone : ∀ l : List String, (∀ v ∈ l, GoodWord v) →
      (l.map lit).filterMap (fun w => (TypeHead.unmodify w).2) = [] := fun l hl => by
    rw [List.filterMap_eq_nil_iff]
    intro w hw
    obtain ⟨v, hv, rfl⟩ := List.mem_map.mp hw
    rw [(hl v hv).unmodify]
  rcases h.written_eq with ⟨hm, he⟩ | ⟨m, l₁, a, l₂, hm, hws, he⟩
  · rw [TypeHead.modifierOf, he, hnone words h.2.1, hm]
    rfl
  · have hw : ∀ v ∈ words, GoodWord v := h.2.1
    rw [hws] at hw
    rw [TypeHead.modifierOf, he, List.map_append, List.map_cons, List.filterMap_append,
      List.filterMap_cons, hnone l₁ fun v hv => hw v (List.mem_append_left _ hv),
      hnone l₂ fun v hv => hw v (List.mem_append_right _ (List.mem_cons_of_mem a hv)),
      (hw a (by simp)).unmodify_marked (h.goodChars_spelling hm), hm]
    rfl

end Written

end TypeTree

/-! ## No ` of ` inside a written head

The separator starts with a blank, so it cannot start inside a word; and after the blank
between two words it would need the next word to be `of`. -/

namespace Text

open TypeHead

theorem splitFirst_cons_of_not_prefix {sep : List Point} {c : Point} {rest : List Point}
    (h : sep.isPrefixOf (c :: rest) = false) :
    splitFirst sep (c :: rest) = (splitFirst sep rest).map fun (b, a) => (c :: b, a) := by
  rw [splitFirst, if_neg (by simp [h])]

theorem splitFirst_ofSep_nonblank_append {w : List Point} (hw : ∀ c ∈ w, isBlank c = false)
    (z : List Point) :
    splitFirst ofSep (w ++ z) = (splitFirst ofSep z).map fun (b, a) => (w ++ b, a) := by
  induction w with
  | nil => simp
  | cons c w ih =>
      have hc : isBlank c = false := hw c List.mem_cons_self
      have hne : c ≠ .char ' ' := by
        rintro rfl
        cases hc
      have hpre : ofSep.isPrefixOf (c :: (w ++ z)) = false := by
        simp [ofSep, List.isPrefixOf, Ne.symm hne]
      rw [List.cons_append, splitFirst_cons_of_not_prefix hpre,
        ih fun d hd => hw d (List.mem_cons_of_mem c hd), Option.map_map]
      rfl

theorem of_not_prefix {w z : List Point} (hw : IsWord w) (hof : w ≠ lit "of")
    (hz : ∀ c ∈ z.head?, isBlank c = true) : (lit "of ").isPrefixOf (w ++ z) = false := by
  obtain ⟨hne, hb⟩ := hw
  match w, hne, hb, hof with
  | [a], _, _, _ =>
      cases z with
      | nil => simp [Text.lit, List.isPrefixOf]
      | cons d z =>
          have hd : isBlank d = true := hz d rfl
          have : d ≠ .char 'f' := by
            rintro rfl
            cases hd
          simp [Text.lit, List.isPrefixOf, Ne.symm this]
  | [a, b], _, _, hof =>
      have : ¬ (a = .char 'o' ∧ b = .char 'f') := by
        rintro ⟨rfl, rfl⟩
        exact hof rfl
      by_cases ha : a = .char 'o'
      · subst ha
        have hb' : b ≠ .char 'f' := fun h => this ⟨rfl, h⟩
        simp [Text.lit, List.isPrefixOf, Ne.symm hb']
      · simp [Text.lit, List.isPrefixOf, Ne.symm ha]
  | a :: b :: c :: w, _, hb, _ =>
      have hc : isBlank c = false := hb c (by simp)
      have : c ≠ .char ' ' := by
        rintro rfl
        cases hc
      simp [Text.lit, List.isPrefixOf, Ne.symm this]

theorem splitFirst_ofSep_intercalate :
    ∀ {ws : List (List Point)}, (∀ w ∈ ws, IsWord w ∧ w ≠ lit "of") →
    ∀ {z : List Point}, (∀ c ∈ z.head?, isBlank c = true) →
      splitFirst ofSep ([.char ' '].intercalate ws ++ z) =
        (splitFirst ofSep z).map fun (b, a) => ([.char ' '].intercalate ws ++ b, a)
  | [], _, z, _ => by simp
  | [w], h, z, _ => by
      rw [List.intercalate_singleton]
      exact splitFirst_ofSep_nonblank_append (h w List.mem_cons_self).1.2 z
  | w :: w' :: ws, h, z, hz => by
      have hw := h w List.mem_cons_self
      have hrest : ∀ v ∈ w' :: ws, IsWord v ∧ v ≠ lit "of" :=
        fun v hv => h v (List.mem_cons_of_mem w hv)
      -- after the blank, the next word is followed by a blank or by `z`
      obtain ⟨tail, htail, hhead⟩ : ∃ tail, [.char ' '].intercalate (w' :: ws) ++ z = w' ++ tail ∧
          ∀ c ∈ tail.head?, isBlank c = true := by
        cases ws with
        | nil => exact ⟨z, by simp, hz⟩
        | cons w'' ws =>
            refine ⟨.char ' ' :: ([.char ' '].intercalate (w'' :: ws) ++ z), ?_, ?_⟩
            · simp [List.intercalate_cons_cons]
            · intro c hc
              cases hc
              decide
      have hpre : ofSep.isPrefixOf (.char ' ' :: ([.char ' '].intercalate (w' :: ws) ++ z)) =
          false := by
        rw [htail]
        have := of_not_prefix (hrest w' List.mem_cons_self).1 (hrest w' List.mem_cons_self).2
          hhead
        simpa [ofSep, List.isPrefixOf, Text.lit] using this
      rw [List.intercalate_cons_cons, List.append_assoc, List.append_assoc,
        List.singleton_append, splitFirst_ofSep_nonblank_append hw.1.2,
        splitFirst_cons_of_not_prefix hpre, splitFirst_ofSep_intercalate hrest hz]
      simp only [Option.map_map]
      congr 1
      funext x
      simp [List.append_assoc]

theorem splitFirst_ofSep_self (y : List Point) : splitFirst ofSep (ofSep ++ y) = some ([], y) := by
  simp [splitFirst, ofSep, List.isPrefixOf]

end Text

namespace TypeTree

open Text (Trimmed)

/-! ## The written head, as a text

Read through `lit`, the written head is its written words joined by single blanks; it
holds no ` of `, and is cut from what follows at the ` of ` right after it. -/

section Head

variable {words : List String} {mark : Option Mark}

theorem GoodWords.written_ne_nil (h : GoodWords words mark) : markWords words mark ≠ [] := by
  rcases h.written_eq with ⟨-, he⟩ | ⟨m, l₁, a, l₂, -, -, he⟩
  · rw [he]
    exact h.1
  · rw [he]
    simp

theorem GoodWords.isWord_lit (h : GoodWords words mark) :
    ∀ w ∈ (markWords words mark).map lit, IsWord w ∧ w ≠ lit "of" := by
  intro w hw
  obtain ⟨v, hv, rfl⟩ := List.mem_map.mp hw
  exact ⟨h.isWord v hv, h.ne_of v hv⟩

/-- The words of the written head are its written words. -/
theorem GoodWords.words_lit (h : GoodWords words mark) :
    Text.words ([.char ' '].intercalate ((markWords words mark).map lit)) =
      (markWords words mark).map lit :=
  Text.words_intercalate fun w hw => (h.isWord_lit w hw).1

theorem GoodWords.baseOf (h : GoodWords words mark) :
    TypeHead.baseOf ((markWords words mark).map lit) = lit (" ".intercalate words) := by
  rw [TypeHead.baseOf, List.map_map]
  rw [show ((fun w => (TypeHead.unmodify w).1) ∘ lit) = fun w => (TypeHead.unmodify (lit w)).1
    from rfl, h.bases, Text.lit_intercalate]
  rfl

theorem GoodWords.trimmed (h : GoodWords words mark) :
    Trimmed ([.char ' '].intercalate ((markWords words mark).map lit)) :=
  Trimmed.intercalate (by simpa using h.written_ne_nil) fun w hw => (h.isWord_lit w hw).1

theorem GoodWords.comma_not_mem (h : GoodWords words mark) :
    .char ',' ∉ [.char ' '].intercalate ((markWords words mark).map lit) := by
  intro hc
  rcases Text.mem_intercalate hc with he | ⟨w, hw, hcw⟩
  · cases he
  · obtain ⟨v, hv, rfl⟩ := List.mem_map.mp hw
    exact (h.goodChars_written v hv _ hcw).2.1 rfl

theorem GoodWords.percent_not_mem (h : GoodWords words mark) :
    .char '%' ∉ lit (" ".intercalate words) := by
  rw [Text.lit_intercalate]
  intro hc
  rcases Text.mem_intercalate hc with he | ⟨w, hw, hcw⟩
  · cases he
  · obtain ⟨v, hv, rfl⟩ := List.mem_map.mp hw
    exact (h.2.1 v hv).goodChars.not_mem_lit (.inr (.inr rfl)) hcw

theorem GoodWords.splitFirst (h : GoodWords words mark) {z : List Point}
    (hz : ∀ c ∈ z.head?, Text.isBlank c = true) :
    Text.splitFirst TypeHead.ofSep ([.char ' '].intercalate ((markWords words mark).map lit) ++ z) =
      (Text.splitFirst TypeHead.ofSep z).map
        fun (b, a) => ([.char ' '].intercalate ((markWords words mark).map lit) ++ b, a) :=
  Text.splitFirst_ofSep_intercalate h.isWord_lit hz

/-- The written head is cut from what follows at the ` of ` right after it. -/
theorem GoodWords.splitFirst_ofSep (h : GoodWords words mark) (z : List Point) :
    Text.splitFirst TypeHead.ofSep
        ([.char ' '].intercalate ((markWords words mark).map lit) ++ TypeHead.ofSep ++ z) =
      some ([.char ' '].intercalate ((markWords words mark).map lit), z) := by
  rw [List.append_assoc, h.splitFirst (TypeHead.ofSep_append_head z), Text.splitFirst_ofSep_self]
  simp

theorem GoodWords.suffix (h : GoodWords words mark) :
    Tables.standard.suffix (mark.map fun m => lit m.spelling) = lit (TypeTree.suffix mark) := by
  cases mark with
  | none => rfl
  | some m =>
      have hl : Text.lower (lit m.spelling) = lit m.modifier.name := (h.2.2 m rfl).2.1
      simp only [Option.map_some, Tables.suffix, hl, TypeTree.suffix]
      cases m.modifier <;> decide

end Head

/-! ## Written forms of trees

A well-formed node has one argument, or two for a map.  Its written form starts and
ends with a character that is no blank, and holds a comma only where a map is written. -/

theorem lit_yaml_leaf (words : List String) (mark : Option Mark) :
    lit (yaml (.leaf words mark)) = [.char ' '].intercalate ((markWords words mark).map lit) := by
  rw [yaml, Text.lit_intercalate]
  rfl

theorem lit_yaml_node (head : List String) (mark : Option Mark) (args : List TypeTree) :
    lit (yaml (.node head mark args)) =
      [.char ' '].intercalate ((markWords head mark).map lit) ++ TypeHead.ofSep ++
        lit (yamlArgs args) := by
  rw [yaml, Text.lit_append, Text.lit_append, Text.lit_intercalate]
  rfl

theorem yamlArgs_single (a : TypeTree) : yamlArgs [a] = yaml a := by
  simp [yamlArgs]

theorem yamlArgs_pair (a b : TypeTree) : yamlArgs [a, b] = yaml a ++ ", " ++ yaml b := by
  simp [yamlArgs]

theorem cppArgs_pair (a b : TypeTree) : cppArgs [a, b] = cpp a ++ ", " ++ cpp b := by
  simp [cppArgs]

theorem WellFormed.args_eq {head : List String} {args : List TypeTree}
    (hlen : args.length = if head = ["Map"] then 2 else 1) :
    (head = ["Map"] ∧ ∃ b c, args = [b, c]) ∨ (head ≠ ["Map"] ∧ ∃ b, args = [b]) := by
  by_cases hm : head = ["Map"]
  · rw [if_pos hm] at hlen
    match args, hlen with
    | [b, c], _ => exact .inl ⟨hm, b, c, rfl⟩
  · rw [if_neg hm] at hlen
    match args, hlen with
    | [b], _ => exact .inr ⟨hm, b, rfl⟩

theorem trimmed_yaml {t : TypeTree} (hw : t.WellFormed) : Trimmed (lit t.yaml) := by
  induction hw with
  | leaf h =>
      rw [lit_yaml_leaf]
      exact h.trimmed
  | node h hlen hargs ih =>
      rename_i head mark args
      rw [lit_yaml_node]
      have hargs' : Trimmed (lit (yamlArgs args)) := by
        rcases WellFormed.args_eq hlen with ⟨-, b, c, rfl⟩ | ⟨-, b, rfl⟩
        · rw [yamlArgs_pair, Text.lit_append, Text.lit_append]
          exact Trimmed.append_append (ih b (by simp)) (ih c (by simp))
        · exact ih b (by simp)
      exact Trimmed.append_append h.trimmed hargs'

theorem trim_yaml {t : TypeTree} (hw : t.WellFormed) : Text.trim (lit t.yaml) = lit t.yaml :=
  (trimmed_yaml hw).trim_eq

/-- The written form of a tree without a map holds no comma. -/
theorem comma_not_mem_yaml {t : TypeTree} (hw : t.WellFormed) (hm : t.MapFree) :
    .char ',' ∉ lit t.yaml := by
  induction hw with
  | leaf h =>
      rw [lit_yaml_leaf]
      exact h.comma_not_mem
  | node h hlen hargs ih =>
      rename_i head mark args
      cases hm with
      | node hnot hfree =>
          rcases WellFormed.args_eq hlen with ⟨hmap, -⟩ | ⟨-, b, rfl⟩
          · exact absurd hmap hnot
          · rw [lit_yaml_node]
            intro hc
            rw [List.mem_append, List.mem_append] at hc
            rcases hc with (hc | hc) | hc
            · exact h.comma_not_mem hc
            · revert hc
              decide
            · exact ih b (by simp) (hfree b (by simp)) hc

/-! ## Shapes of trees

The induction runs on the height of a tree: each argument nests one level less than its
node. -/

theorem cpp_node_map (mark : Option Mark) (args : List TypeTree) :
    cpp (.node ["Map"] mark args) = "std::map< " ++ cppArgs args ++ " >" ++ suffix mark := by
  simp [cpp]

theorem cpp_node_list (mark : Option Mark) (args : List TypeTree) :
    cpp (.node ["List"] mark args) = "std::vector< " ++ cppArgs args ++ " >" ++ suffix mark := by
  simp [cpp]

theorem cpp_node_other {head : List String} (hl : head ≠ ["List"]) (hm : head ≠ ["Map"])
    (mark : Option Mark) (args : List TypeTree) :
    cpp (.node head mark args) = " ".intercalate head ++ "< " ++ cppArgs args ++ " >" ++
      suffix mark := by
  rw [cpp]
  · exact hl
  · exact hm

theorem MapFree.args {t : TypeTree} (h : t.MapFree) : ∀ a ∈ t.args, a.MapFree := by
  cases h with
  | leaf => intro a ha; cases ha
  | node _ hfree => exact hfree

theorem MapFree.node_iff {head : List String} {mark : Option Mark} {args : List TypeTree} :
    (TypeTree.node head mark args).MapFree ↔ head ≠ ["Map"] ∧ ∀ t ∈ args, t.MapFree := by
  constructor
  · rintro (_ | ⟨hhead, hargs⟩)
    exact ⟨hhead, hargs⟩
  · rintro ⟨hhead, hargs⟩
    exact .node hhead hargs

theorem height_le_heightArgs {a : TypeTree} :
    ∀ {ts : List TypeTree}, a ∈ ts → a.height ≤ heightArgs ts
  | t :: ts, h => by
      rw [heightArgs]
      rcases List.mem_cons.mp h with rfl | h
      · exact Nat.le_max_left _ _
      · exact Nat.le_trans (height_le_heightArgs h) (Nat.le_max_right _ _)

theorem height_lt_of_mem {head : List String} {mark : Option Mark} {args : List TypeTree}
    {a : TypeTree} (h : a ∈ args) : a.height + 1 ≤ (TypeTree.node head mark args).height := by
  have := height_le_heightArgs h
  simp only [height]
  omega

theorem GoodWords.eq_singleton_of_intercalate {words : List String} {mark : Option Mark}
    (h : GoodWords words mark) {x : String} (hx : ' ' ∉ x.toList)
    (he : " ".intercalate words = x) : words = [x] := by
  match words, h.1 with
  | [w], _ => rw [String.intercalate_singleton] at he; rw [he]
  | w :: w' :: rest, _ =>
      rw [String.intercalate_cons_cons] at he
      exact absurd (by rw [← he]; simp) hx

/-! ## Reading back a tree without nested maps

By induction on the tree: the written head reads back as the head and its modifier, and
the arguments, holding no comma, are cut at the commas between them into their written
forms, each rendered one level deeper. -/

theorem pieces_one {b : TypeTree} (hb : .char ',' ∉ lit b.yaml) :
    Text.splitOn (.char ',') (lit (yamlArgs [b])) = [lit b.yaml] := by
  rw [Text.splitOn_eq_listSplitOn]
  exact List.splitOn_eq_singleton hb

theorem pieces_two {b c : TypeTree} (hb : .char ',' ∉ lit b.yaml)
    (hc : .char ',' ∉ lit c.yaml) :
    Text.splitOn (.char ',') (lit (yamlArgs [b, c])) = [lit b.yaml, .char ' ' :: lit c.yaml] := by
  have hc' : .char ',' ∉ Point.char ' ' :: lit c.yaml := by
    rw [List.mem_cons, not_or]
    exact ⟨by decide, hc⟩
  rw [yamlArgs_pair, Text.lit_append, Text.lit_append, Text.splitOn_eq_listSplitOn,
    show lit ", " = [.char ',', .char ' '] from rfl, List.append_assoc, List.cons_append,
    List.splitOn_append_cons_self_of_not_mem hb, List.singleton_append,
    List.splitOn_eq_singleton hc']

theorem render_yaml {t : TypeTree} (hw : t.WellFormed) :
    ∀ {depth : Nat}, CallDepth.fits (depth + 2 * t.height + 1) → (∀ a ∈ t.args, a.MapFree) →
      Tables.standard.render depth (lit t.yaml) = .ok (lit t.cpp) := by
  induction hw with
  | leaf h =>
      rename_i words mark
      intro depth hd _
      have hsplit : Text.splitFirst TypeHead.ofSep (lit (yaml (.leaf words mark))) = none := by
        have := h.splitFirst (z := []) (by simp)
        rw [List.append_nil] at this
        rw [lit_yaml_leaf, this]
        rfl
      rw [Tables.render_of_splitFirst_none _ (by simpa [height] using hd) hsplit, lit_yaml_leaf,
        h.words_lit, h.baseOf, h.modifierOf, h.suffix, cpp, Text.lit_append]
  | node h hlen hargs ih =>
      rename_i head mark args
      intro depth hd hflat
      have hsplit : Text.splitFirst TypeHead.ofSep (lit (yaml (.node head mark args))) =
          some ([.char ' '].intercalate ((markWords head mark).map lit), lit (yamlArgs args)) := by
        rw [lit_yaml_node]
        exact h.splitFirst_ofSep _
      -- each argument renders, two calls deeper, as the type it stands for
      have hrender : ∀ a ∈ args,
          Tables.standard.render (depth + 2) (lit a.yaml) = .ok (lit a.cpp) := by
        intro a ha
        have hle : a.height + 1 ≤ (node head mark args).height := height_lt_of_mem ha
        exact ih a ha (CallDepth.fits_of_le (by omega) hd) (hflat a ha).args
      have hcomma : ∀ a ∈ args, .char ',' ∉ lit a.yaml :=
        fun a ha => comma_not_mem_yaml (hargs a ha) (hflat a ha)
      have hd' : CallDepth.fits (depth + 1) = true := CallDepth.fits_of_le (by omega) hd
      rcases WellFormed.args_eq hlen with ⟨rfl, b, c, rfl⟩ | ⟨hm, b, rfl⟩
      · -- a map: two pieces, the second after a blank
        have hmap : (Text.splitOn (.char ',') (lit (yamlArgs [b, c]))).mapM
            (fun p => Tables.standard.render (depth + 2) (Text.trim p)) =
              .ok [lit b.cpp, lit c.cpp] := by
          rw [pieces_two (hcomma b (by simp)) (hcomma c (by simp)), List.mapM_cons,
            List.mapM_cons, trim_yaml (hargs b (by simp)), hrender b (by simp),
            Text.trim_cons_of_isBlank (c := .char ' ') (by decide), trim_yaml (hargs c (by simp)),
            hrender c (by simp)]
          rfl
        have hfill : Pattern.format (Tables.standard.templateOf (TypeHead.baseOf
            (Text.words ([.char ' '].intercalate ((markWords ["Map"] mark).map lit)))))
              [lit b.cpp, lit c.cpp] =
            .ok (lit "std::map< " ++ lit b.cpp ++ lit ", " ++ lit c.cpp ++ lit " >") := by
          rw [h.words_lit, h.baseOf, String.intercalate_singleton, Tables.standard_templateOf_map]
          exact Pattern.format_two (a := lit "std::map< ") (b := lit ", ") (c := lit " >")
            (by decide) (by decide) (by decide) _ _
        rw [Tables.render_of_filled _ hd' hsplit hmap hfill, h.words_lit, h.modifierOf, h.suffix,
          cpp_node_map, cppArgs_pair]
        simp [List.append_assoc]
      · -- one piece
        have hmap : (Text.splitOn (.char ',') (lit (yamlArgs [b]))).mapM
            (fun p => Tables.standard.render (depth + 2) (Text.trim p)) = .ok [lit b.cpp] := by
          rw [pieces_one (hcomma b (by simp)), List.mapM_cons, trim_yaml (hargs b (by simp)),
            hrender b (by simp)]
          rfl
        by_cases hl : head = ["List"]
        · subst hl
          have hfill : Pattern.format (Tables.standard.templateOf (TypeHead.baseOf
              (Text.words ([.char ' '].intercalate ((markWords ["List"] mark).map lit)))))
                [lit b.cpp] = .ok (lit "std::vector< " ++ lit b.cpp ++ lit " >") := by
            rw [h.words_lit, h.baseOf, String.intercalate_singleton,
              Tables.standard_templateOf_list]
            exact Pattern.format_one (a := lit "std::vector< ") (b := lit " >")
              (by decide) (by decide) _
          rw [Tables.render_of_filled _ hd' hsplit hmap hfill, h.words_lit, h.modifierOf,
            h.suffix, cpp_node_list]
          simp [cppArgs, List.append_assoc]
        · have hnl : lit (" ".intercalate head) ≠ lit "List" := fun he =>
            hl (h.eq_singleton_of_intercalate (by decide) (Text.lit_injective he))
          have hnm : lit (" ".intercalate head) ≠ lit "Map" := fun he =>
            hm (h.eq_singleton_of_intercalate (by decide) (Text.lit_injective he))
          have hpct : .char '%' ∉ lit (" ".intercalate head) ++ lit "< " := by
            rw [List.mem_append, not_or]
            exact ⟨h.percent_not_mem, by decide⟩
          have hfill : Pattern.format (Tables.standard.templateOf (TypeHead.baseOf
              (Text.words ([.char ' '].intercalate ((markWords head mark).map lit)))))
                [lit b.cpp] =
              .ok (lit (" ".intercalate head) ++ lit "< " ++ lit b.cpp ++ lit " >") := by
            rw [h.words_lit, h.baseOf, Tables.standard_templateOf_other hnl hnm,
              show lit (" ".intercalate head) ++ lit "< %s >" =
                lit (" ".intercalate head) ++ lit "< " ++ lit "%s" ++ lit " >" from by
                  simp [Text.lit, List.append_assoc]]
            exact Pattern.format_one (b := lit " >") hpct (by decide) _
          rw [Tables.render_of_filled _ hd' hsplit hmap hfill, h.words_lit, h.modifierOf,
            h.suffix, cpp_node_other hl hm]
          simp [cppArgs, List.append_assoc]

/-! ## A map below the root is cut apart

A map below the root writes a comma inside an argument, and the renderer cuts there.  The
piece before the first comma is the head of some argument and ` of ` in front of a piece
that fails, down to a map given a single argument; so the whole rendering fails. -/

/-- Rendering a text fails, whatever the room. -/
def Fails (s : List Point) : Prop :=
  ∀ depth, ∃ e, Tables.standard.render depth s = .error e

theorem mem_pieces_self {q : List Point} (hq : .char ',' ∉ q) :
    q ∈ Text.splitOn (.char ',') q := by
  rw [Text.splitOn_eq_listSplitOn, List.splitOn_eq_singleton hq]
  exact List.mem_singleton_self q

theorem mem_pieces_of_cut {q : List Point} (hq : .char ',' ∉ q) (r : List Point) :
    q ∈ Text.splitOn (.char ',') (q ++ .char ',' :: r) := by
  rw [Text.splitOn_eq_listSplitOn, List.splitOn_append_cons_self_of_not_mem hq]
  exact List.mem_cons_self

theorem mem_pieces_of_mem_after {p : List Point} (x : List Point) {y : List Point}
    (hp : p ∈ Text.splitOn (.char ',') y) :
    p ∈ Text.splitOn (.char ',') (x ++ .char ',' :: y) := by
  rw [Text.splitOn_eq_listSplitOn] at hp ⊢
  rw [List.splitOn_append_cons_self]
  exact List.mem_append_right _ hp

section Head

variable {words : List String} {mark : Option Mark}

theorem GoodWords.fails_of_piece (h : GoodWords words mark) {after p : List Point}
    (hp : p ∈ Text.splitOn (.char ',') after) (hfail : Fails (Text.trim p)) :
    Fails ([.char ' '].intercalate ((markWords words mark).map lit) ++ TypeHead.ofSep ++ after) :=
  fun depth => Tables.standard.render_error_of_piece (h.splitFirst_ofSep after)
    ⟨p, hp, hfail (depth + 2)⟩

theorem GoodWords.headed (h : GoodWords words mark) {q : List Point} (hq : .char ',' ∉ q)
    (htq : Trimmed q) :
    .char ',' ∉ [.char ' '].intercalate ((markWords words mark).map lit) ++ TypeHead.ofSep ++ q ∧
      Trimmed
        ([.char ' '].intercalate ((markWords words mark).map lit) ++ TypeHead.ofSep ++ q) := by
  refine ⟨?_, h.trimmed.append_append htq⟩
  simp only [List.mem_append, not_or]
  exact ⟨⟨h.comma_not_mem, by decide⟩, hq⟩

theorem GoodWords.fails_map_single (h : GoodWords ["Map"] mark) {b : TypeTree}
    (hb : b.WellFormed) (hbm : b.MapFree) :
    Fails ([.char ' '].intercalate ((markWords ["Map"] mark).map lit) ++ TypeHead.ofSep ++
      lit b.yaml) := by
  intro depth
  have hsplit := h.splitFirst_ofSep (lit b.yaml)
  have hpiece := mem_pieces_self (comma_not_mem_yaml hb hbm)
  have hpieces : Text.splitOn (.char ',') (lit b.yaml) = [lit b.yaml] := by
    rw [Text.splitOn_eq_listSplitOn]
    exact List.splitOn_eq_singleton (comma_not_mem_yaml hb hbm)
  cases hr : Tables.standard.render (depth + 2) (lit b.yaml) with
  | error e =>
      exact Tables.standard.render_error_of_piece hsplit ⟨lit b.yaml, hpiece, e, by
        rw [trim_yaml hb, hr]⟩
  | ok v =>
      -- the argument renders, and the pattern of a map finds no second argument
      have hmap : (Text.splitOn (.char ',') (lit b.yaml)).mapM
          (fun p => Tables.standard.render (depth + 2) (Text.trim p)) = .ok [v] := by
        rw [hpieces, List.mapM_cons, trim_yaml hb, hr]
        rfl
      refine Tables.standard.render_error_of_format hsplit hmap ⟨.missingArgument, ?_⟩
      rw [h.words_lit, h.baseOf, String.intercalate_singleton, Tables.standard_templateOf_map]
      exact Pattern.format_two_of_one (a := lit "std::map< ") (b := lit ", ") (c := lit " >")
        (by decide) (by decide) (by decide) v

end Head

/-- The written form of a tree with a map in it has a comma, and the piece before the
first one, which has no blank at its ends, fails.  By induction on the tree: the piece
is the head and ` of ` followed either by the first piece of the first argument or, when
that argument has no map, by the whole argument of a map, which then has one argument
only. -/
theorem firstPiece_fails {t : TypeTree} (hw : t.WellFormed) (hm : ¬ t.MapFree) :
    ∃ q r, lit t.yaml = q ++ .char ',' :: r ∧ .char ',' ∉ q ∧ Trimmed q ∧ Fails q := by
  induction hw with
  | leaf _ => exact absurd .leaf hm
  | node h hlen hargs ih =>
      rename_i head mark args
      rcases WellFormed.args_eq hlen with ⟨rfl, b, c, rfl⟩ | ⟨hmap, b, rfl⟩
      · by_cases hb : b.MapFree
        · -- the map itself is cut after its first argument
          have hbw := hargs b (by simp)
          obtain ⟨hqc, htq⟩ := h.headed (comma_not_mem_yaml hbw hb) (trimmed_yaml hbw)
          refine ⟨_, .char ' ' :: lit c.yaml, ?_, hqc, htq, h.fails_map_single hbw hb⟩
          rw [lit_yaml_node, yamlArgs_pair, Text.lit_append, Text.lit_append]
          simp [Text.lit]
        · obtain ⟨q, r, hq, hqc, htq, hfail⟩ := ih b (by simp) hb
          obtain ⟨hqc', htq'⟩ := h.headed hqc htq
          refine ⟨_, r ++ lit ", " ++ lit c.yaml, ?_, hqc', htq',
            h.fails_of_piece (mem_pieces_self hqc) (by rw [htq.trim_eq]; exact hfail)⟩
          rw [lit_yaml_node, yamlArgs_pair, Text.lit_append, Text.lit_append, hq]
          simp
      · have hb : ¬ b.MapFree := fun hb =>
          hm (MapFree.node_iff.mpr ⟨hmap, by simpa using hb⟩)
        obtain ⟨q, r, hq, hqc, htq, hfail⟩ := ih b (by simp) hb
        obtain ⟨hqc', htq'⟩ := h.headed hqc htq
        refine ⟨_, r, ?_, hqc', htq',
          h.fails_of_piece (mem_pieces_self hqc) (by rw [htq.trim_eq]; exact hfail)⟩
        rw [lit_yaml_node, yamlArgs_single, hq]
        simp

/-- A tree with a map below its root fails to render: some piece of its arguments is the
first piece of an argument with a map in it. -/
theorem fails_yaml {t : TypeTree} (hw : t.WellFormed) (hm : ∃ a ∈ t.args, ¬ a.MapFree) :
    Fails (lit t.yaml) := by
  obtain ⟨a, ha, ham⟩ := hm
  cases hw with
  | leaf _ => cases ha
  | node h hlen hargs =>
      rename_i head mark args
      rw [lit_yaml_node]
      rcases WellFormed.args_eq hlen with ⟨rfl, b, c, rfl⟩ | ⟨-, b, rfl⟩
      · by_cases hb : b.MapFree
        · -- the map is in the second argument, whose first piece follows the comma
          have hc : ¬ c.MapFree := by
            simp only [args, List.mem_cons, List.not_mem_nil, or_false] at ha
            rcases ha with rfl | rfl
            · exact absurd hb ham
            · exact ham
          obtain ⟨q, r, hq, hqc, htq, hfail⟩ := firstPiece_fails (hargs c (by simp)) hc
          have hsq : .char ',' ∉ Point.char ' ' :: q := by
            rw [List.mem_cons, not_or]
            exact ⟨by decide, hqc⟩
          refine h.fails_of_piece (p := .char ' ' :: q) ?_ ?_
          · rw [yamlArgs_pair, Text.lit_append, Text.lit_append, hq,
              show lit ", " = [.char ',', .char ' '] from rfl, List.append_assoc]
            exact mem_pieces_of_mem_after _ (mem_pieces_of_cut hsq r)
          · rw [Text.trim_cons_of_isBlank (c := .char ' ') (by decide), htq.trim_eq]
            exact hfail
        · obtain ⟨q, r, hq, hqc, htq, hfail⟩ := firstPiece_fails (hargs b (by simp)) hb
          refine h.fails_of_piece (p := q) ?_ (by rw [htq.trim_eq]; exact hfail)
          rw [yamlArgs_pair, Text.lit_append, Text.lit_append, hq, List.append_assoc,
            List.append_assoc, List.cons_append]
          exact mem_pieces_of_cut hqc _
      · have hab : a = b := List.mem_singleton.mp ha
        subst hab
        obtain ⟨q, r, hq, hqc, htq, hfail⟩ := firstPiece_fails (hargs a (by simp)) ham
        refine h.fails_of_piece (p := q) ?_ (by rw [htq.trim_eq]; exact hfail)
        rw [yamlArgs_single, hq]
        exact mem_pieces_of_cut hqc r

/-! ## Reading back a tree

The two directions together: with room for the calls its nesting opens, the written
form of a well-formed tree renders as its type exactly when no map stands below its root. -/

/-- With room for the calls its nesting opens, the written form of a well-formed tree is
rendered as the type the tree stands for exactly when no map stands below its root. -/
theorem typeName_yaml_iff {t : TypeTree} (hw : t.WellFormed) {depth : Nat}
    (hd : CallDepth.fits (depth + 2 * t.height + 1) = true) :
    Generator.ready.typeName depth (.text (lit t.yaml)) = .ok (lit t.cpp) ↔
      ∀ a ∈ t.args, a.MapFree := by
  rw [Generator.typeName_ready_text (CallDepth.fits_of_le (by omega) hd)]
  constructor
  · intro hok
    by_cases hm : ∀ a ∈ t.args, a.MapFree
    · exact hm
    · have hmap : ∃ a ∈ t.args, ¬ a.MapFree := by simpa using hm
      obtain ⟨e, he⟩ := fails_yaml hw hmap depth
      rw [he] at hok
      cases hok
  · exact render_yaml hw hd

theorem goodWords_single {w : String} (hw : GoodWord w) : GoodWords [w] none :=
  ⟨List.cons_ne_nil w [], by simpa using hw, fun _ h => nomatch h⟩

/-- A list of maps, with room for its calls: the written form is not read back, and the
condition does not hold either. -/
theorem typeName_yaml_iff_listOfMaps :
    (node ["List"] none [.node ["Map"] none [.leaf ["a"] none, .leaf ["b"] none]]).WellFormed ∧
      (Generator.ready.typeName 0
          (.text (lit (node ["List"] none [.node ["Map"] none [.leaf ["a"] none,
            .leaf ["b"] none]]).yaml)) =
          .ok (lit (node ["List"] none [.node ["Map"] none [.leaf ["a"] none,
            .leaf ["b"] none]]).cpp) ↔
        ∀ a ∈ (node ["List"] none [.node ["Map"] none [.leaf ["a"] none,
          .leaf ["b"] none]]).args, a.MapFree) := by
  have hgood : ∀ w ∈ ["List", "Map", "a", "b"], GoodWord w := by
    simp [GoodWord, Text.isBlank, Point.val]
  have hw : (node ["List"] none [.node ["Map"] none [.leaf ["a"] none,
      .leaf ["b"] none]]).WellFormed := by
    refine .node (goodWords_single (hgood "List" (by simp))) rfl ?_
    simp only [List.mem_singleton, forall_eq]
    refine .node (goodWords_single (hgood "Map" (by simp))) rfl ?_
    simp only [List.mem_cons, List.not_mem_nil, or_false, forall_eq_or_imp, forall_eq]
    exact ⟨.leaf (goodWords_single (hgood "a" (by simp))),
      .leaf (goodWords_single (hgood "b" (by simp)))⟩
  exact ⟨hw, typeName_yaml_iff hw (by decide)⟩

/-- A list of maps is refused: its written form `List of Map of a, b` is cut at the comma
into `Map of a` and `b`, and the map with one argument does not fill its pattern. -/
theorem nested_map_refused :
    Generator.ready.typeName 0 (.text (lit (node ["List"] none [.node ["Map"] none
        [.leaf ["a"] none, .leaf ["b"] none]]).yaml)) =
      .error (.pattern .missingArgument) := by
  cbv

end TypeTree

end StubGen
