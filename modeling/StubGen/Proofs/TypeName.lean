/-
# `StubGen.Proofs.TypeName` — rendering a type, one level at a time

`Tables.render` is defined by well-founded recursion on the length of the text, so it is
opened only here.  Once the calls it opens fit, a type is rendered in one of two ways,
by whether the separator ` of ` occurs in it:

* without it, the type is its head words, each without its modifier, joined by single
  blanks, and then the suffix of the last modifier (`render_of_splitFirst_none`);
* with it, the text after the first ` of ` is cut at every comma, each piece is trimmed
  and rendered two calls deeper, and the head's template is filled with the results,
  followed by the suffix (`render_of_splitFirst_some`).

`typeName_ready_text` says that a generator with the standard tables renders a text in
this way, and the last section reads the standard tables: the patterns of `List`, `Map`
and any other head.
-/
import StubGen.TypeName
import StubGen.Proofs.Pattern

namespace StubGen

open Text (Point lit)
open TypeHead

theorem mapM_error_of_mem {α β ε : Type} {f : α → Except ε β} :
    ∀ {l : List α}, (∃ x ∈ l, ∃ e, f x = .error e) → ∃ e, l.mapM f = .error e
  | a :: l, ⟨x, hx, e, hfx⟩ => by
      rw [List.mapM_cons]
      cases hfa : f a with
      | error e' => exact ⟨e', rfl⟩
      | ok v =>
          rcases List.mem_cons.mp hx with rfl | hx
          · rw [hfx] at hfa
            cases hfa
          · obtain ⟨e', he'⟩ := mapM_error_of_mem ⟨x, hx, e, hfx⟩
            exact ⟨e', by rw [he']; rfl⟩

theorem mem_of_mapM_ok {α β ε : Type} {f : α → Except ε β} :
    ∀ {l : List α} {ys : List β}, l.mapM f = .ok ys → ∀ y ∈ ys, ∃ x ∈ l, f x = .ok y
  | [], ys, h, y, hy => by
      simp only [List.mapM_nil, pure, Except.pure, Except.ok.injEq] at h
      subst h
      cases hy
  | a :: l, ys, h, y, hy => by
      rw [List.mapM_cons] at h
      obtain ⟨b, hb, h⟩ := Except.bind_eq_ok.mp h
      obtain ⟨bs, hbs, h⟩ := Except.bind_eq_ok.mp h
      simp only [pure, Except.pure, Except.ok.injEq] at h
      subst h
      rcases List.mem_cons.mp hy with rfl | hy
      · exact ⟨a, List.mem_cons_self, hb⟩
      · obtain ⟨x, hx, hfx⟩ := mem_of_mapM_ok hbs y hy
        exact ⟨x, List.mem_cons_of_mem a hx, hfx⟩

theorem mapM_ok_of_ok {α β ε : Type} {f g : α → Except ε β} :
    ∀ {l : List α} {ys : List β}, l.mapM f = .ok ys →
      (∀ x ∈ l, ∀ y, f x = .ok y → g x = .ok y) → l.mapM g = .ok ys
  | [], ys, h, _ => h
  | a :: l, ys, h, hfg => by
      rw [List.mapM_cons] at h ⊢
      obtain ⟨b, hb, h⟩ := Except.bind_eq_ok.mp h
      obtain ⟨bs, hbs, h⟩ := Except.bind_eq_ok.mp h
      rw [hfg a List.mem_cons_self b hb,
        mapM_ok_of_ok hbs fun x hx => hfg x (List.mem_cons_of_mem a hx)]
      exact h

theorem mapM_congr_of_mem {α β ε : Type} {f g : α → Except ε β} :
    ∀ {l : List α}, (∀ x ∈ l, f x = g x) → l.mapM f = l.mapM g
  | [], _ => rfl
  | a :: l, h => by
      rw [List.mapM_cons, List.mapM_cons, h a List.mem_cons_self,
        mapM_congr_of_mem fun x hx => h x (List.mem_cons_of_mem a hx)]

theorem map_eq_map_of_mapM_ok {α β γ ε : Type} {f : α → Except ε β} {p : α → γ} {q : β → γ}
    (hf : ∀ x y, f x = .ok y → q y = p x) :
    ∀ {l : List α} {ys : List β}, l.mapM f = .ok ys → ys.map q = l.map p
  | [], ys, h => by
      simp only [List.mapM_nil, pure, Except.pure, Except.ok.injEq] at h
      subst h
      rfl
  | a :: l, ys, h => by
      rw [List.mapM_cons] at h
      obtain ⟨b, hb, h⟩ := Except.bind_eq_ok.mp h
      obtain ⟨bs, hbs, h⟩ := Except.bind_eq_ok.mp h
      simp only [pure, Except.pure, Except.ok.injEq] at h
      subst h
      rw [List.map_cons, List.map_cons, hf a b hb, map_eq_map_of_mapM_ok hf hbs]

theorem map_of_mapM_ok {α β ε : Type} {f : α → Except ε β} {g : β → α}
    (hfg : ∀ x y, f x = .ok y → g y = x) :
    ∀ {l : List α} {ys : List β}, l.mapM f = .ok ys → ys.map g = l := fun h => by
  simpa using map_eq_map_of_mapM_ok (p := id) hfg h

theorem mapM_ok_of_forall {α β ε : Type} {f : α → Except ε β} :
    ∀ {l : List α}, (∀ x ∈ l, ∃ y, f x = .ok y) → ∃ ys, l.mapM f = .ok ys ∧ ys.length = l.length
  | [], _ => ⟨[], rfl, rfl⟩
  | a :: l, h => by
      obtain ⟨y, hy⟩ := h a List.mem_cons_self
      obtain ⟨ys, hys, hlen⟩ := mapM_ok_of_forall fun x hx => h x (List.mem_cons_of_mem a hx)
      refine ⟨y :: ys, ?_, by simp [hlen]⟩
      rw [List.mapM_cons, hy, hys]
      rfl

theorem mapM_eq_error_of_first {α β ε : Type} {f : α → Except ε β} {x : α} {e : ε}
    (post : List α) :
    ∀ {pre : List α}, (∀ y ∈ pre, ∃ r, f y = .ok r) → f x = .error e →
      (pre ++ x :: post).mapM f = .error e
  | [], _, hx => by
      rw [List.nil_append, List.mapM_cons, hx]
      rfl
  | a :: pre, hpre, hx => by
      obtain ⟨r, hr⟩ := hpre a List.mem_cons_self
      rw [List.cons_append, List.mapM_cons, hr,
        mapM_eq_error_of_first post (fun y hy => hpre y (List.mem_cons_of_mem a hy)) hx]
      rfl

theorem CallDepth.fits_of_le {m n : Nat} (h : m ≤ n) (hn : CallDepth.fits n = true) :
    CallDepth.fits m = true := by
  simp only [CallDepth.fits, decide_eq_true_eq] at hn ⊢
  omega

namespace Tables

variable (t : Tables) {depth : Nat} {s : List Point}

/-- A type without arguments is its head words, without their modifiers, and the suffix
of the last modifier. -/
theorem render_of_splitFirst_none (hd : CallDepth.fits (depth + 1) = true)
    (h : Text.splitFirst ofSep s = none) :
    t.render depth s =
      .ok (baseOf (Text.words s) ++ t.suffix (modifierOf (Text.words s))) := by
  rw [render]
  simp only [CallDepth.enter, CallDepth.call, CallDepth.fits_of_le (Nat.le_succ depth) hd, hd,
    if_true]
  split
  · rfl
  · rename_i hs
    rw [h] at hs
    cases hs

/-- A type with arguments: the pieces after the first ` of ` are rendered in turn, two
calls deeper, and fill the template of the head, which the suffix follows. -/
theorem render_of_splitFirst_some (hd : CallDepth.fits (depth + 1) = true)
    {before after : List Point} (h : Text.splitFirst ofSep s = some (before, after)) :
    t.render depth s = (do
      let args ← (Text.splitOn (.char ',') after).mapM fun p => t.render (depth + 2) (Text.trim p)
      let filled ← (Pattern.format (t.templateOf (baseOf (Text.words before))) args).mapError
        Fault.pattern
      pure (filled ++ t.suffix (modifierOf (Text.words before)))) := by
  rw [render]
  simp only [CallDepth.enter, CallDepth.call, CallDepth.fits_of_le (Nat.le_succ depth) hd, hd,
    if_true]
  split
  · rename_i hs
    rw [h] at hs
    cases hs
  · rename_i b a hs
    rw [h] at hs
    cases hs
    rw [List.mapM_subtype (g := fun p => t.render (depth + 2) (Text.trim p)) (fun _ _ => rfl),
      List.unattach_attach]
    rfl

theorem render_error_of_not_fits (hd : CallDepth.fits (depth + 1) = false) :
    ∃ e, t.render depth s = .error e := by
  rw [render]
  cases h0 : CallDepth.fits depth
  · refine ⟨.tooDeep .frame, ?_⟩
    simp only [CallDepth.enter, h0, Bool.false_eq_true, if_false]
    rfl
  · refine ⟨.tooDeep .builtin, ?_⟩
    simp only [CallDepth.enter, CallDepth.call, h0, hd, Bool.false_eq_true, if_true, if_false]
    rfl

theorem render_error_of_piece {before after : List Point}
    (h : Text.splitFirst ofSep s = some (before, after))
    (hp : ∃ p ∈ Text.splitOn (.char ',') after,
      ∃ e, t.render (depth + 2) (Text.trim p) = .error e) :
    ∃ e, t.render depth s = .error e := by
  cases hd : CallDepth.fits (depth + 1)
  · exact t.render_error_of_not_fits hd
  · obtain ⟨e, he⟩ := mapM_error_of_mem hp
    exact ⟨e, by rw [render_of_splitFirst_some t hd h, he]; rfl⟩

theorem render_of_filled (hd : CallDepth.fits (depth + 1) = true) {before after : List Point}
    {args : List (List Point)} {filled : List Point}
    (h : Text.splitFirst ofSep s = some (before, after))
    (hargs : (Text.splitOn (.char ',') after).mapM (fun p => t.render (depth + 2) (Text.trim p)) =
      .ok args)
    (hfill : Pattern.format (t.templateOf (baseOf (Text.words before))) args = .ok filled) :
    t.render depth s = .ok (filled ++ t.suffix (modifierOf (Text.words before))) := by
  rw [render_of_splitFirst_some t hd h, hargs]
  show ((Pattern.format _ args).mapError Fault.pattern >>= fun filled => pure (filled ++ _)) = _
  rw [hfill]
  rfl

theorem render_error_of_format {before after : List Point} {args : List (List Point)}
    (h : Text.splitFirst ofSep s = some (before, after))
    (hargs : (Text.splitOn (.char ',') after).mapM (fun p => t.render (depth + 2) (Text.trim p)) =
      .ok args)
    (hfill : ∃ f, Pattern.format (t.templateOf (baseOf (Text.words before))) args = .error f) :
    ∃ e, t.render depth s = .error e := by
  cases hd : CallDepth.fits (depth + 1)
  · exact t.render_error_of_not_fits hd
  · obtain ⟨f, hf⟩ := hfill
    refine ⟨.pattern f, ?_⟩
    rw [render_of_splitFirst_some t hd h, hargs]
    show ((Pattern.format _ args).mapError Fault.pattern >>= fun filled => pure (filled ++ _)) = _
    rw [hf]
    rfl

theorem fits_of_render_ok {r : List Point} (h : t.render depth s = .ok r) :
    CallDepth.fits (depth + 1) = true := by
  cases hd : CallDepth.fits (depth + 1)
  · obtain ⟨e, he⟩ := t.render_error_of_not_fits (s := s) hd
    rw [he] at h
    cases h
  · rfl

theorem render_ok_cases {r : List Point} (h : t.render depth s = .ok r) :
    (Text.splitFirst ofSep s = none ∧
      r = baseOf (Text.words s) ++ t.suffix (modifierOf (Text.words s))) ∨
    ∃ before after args filled, Text.splitFirst ofSep s = some (before, after) ∧
      (Text.splitOn (.char ',') after).mapM (fun p => t.render (depth + 2) (Text.trim p)) =
        .ok args ∧
      Pattern.format (t.templateOf (baseOf (Text.words before))) args = .ok filled ∧
      r = filled ++ t.suffix (modifierOf (Text.words before)) := by
  have hd := t.fits_of_render_ok h
  cases hs : Text.splitFirst ofSep s with
  | none =>
      rw [t.render_of_splitFirst_none hd hs] at h
      cases h
      exact .inl ⟨rfl, rfl⟩
  | some split =>
      obtain ⟨before, after⟩ := split
      rw [t.render_of_splitFirst_some hd hs] at h
      obtain ⟨args, hargs, h⟩ := Except.bind_eq_ok.mp h
      obtain ⟨filled, hfilled, h⟩ := Except.bind_eq_ok.mp h
      cases hf : Pattern.format (t.templateOf (baseOf (Text.words before))) args with
      | error e =>
          rw [hf] at hfilled
          cases hfilled
      | ok v =>
          rw [hf] at hfilled
          cases hfilled
          cases h
          exact .inr ⟨before, after, args, filled, rfl, hargs, hf, rfl⟩

theorem length_trim_lt {before after p : List Point}
    (h : Text.splitFirst ofSep s = some (before, after))
    (hp : p ∈ Text.splitOn (.char ',') after) : (Text.trim p).length < s.length := by
  have h1 := Text.length_trim_le p
  have h2 := Text.length_le_of_mem_splitOn hp
  have h3 := Text.splitFirst_length h
  simp only [ofSep, List.length_cons, List.length_nil] at h3
  omega

theorem render_of_le {depth k : Nat} :
    ∀ {s r : List Point}, t.render (depth + k) s = .ok r → t.render depth s = .ok r := by
  intro s
  induction hn : s.length using Nat.strong_induction_on generalizing s depth with
  | _ n ih =>
    intro r h
    have hd : CallDepth.fits (depth + 1) = true :=
      CallDepth.fits_of_le (by omega) (t.fits_of_render_ok h)
    rcases t.render_ok_cases h with ⟨hs, rfl⟩ | ⟨before, after, args, filled, hs, hargs, hf, rfl⟩
    · exact t.render_of_splitFirst_none hd hs
    · -- each piece renders two calls deeper with the same result
      have hargs' := mapM_ok_of_ok (g := fun p => t.render (depth + 2) (Text.trim p)) hargs
        fun p hp y hy => by
          have hlt := length_trim_lt hs hp
          exact @ih _ (hn ▸ hlt) (depth + 2) _ rfl _ (by
            rw [show depth + 2 + k = depth + k + 2 by omega]
            exact hy)
      exact t.render_of_filled hd hs hargs' hf

/-! ## Rendered types stand on one line

Every character of a rendering comes from the type's words, from a template or from a
suffix; by induction on the length of the type, each piece of its arguments being
shorter, tables whose templates and suffixes break no line render a type that breaks no
line as one that breaks none. -/

/-- Tables whose templates and suffixes break no line. -/
def Unbroken (t : Tables) : Prop :=
  (∀ e ∈ t.templates, Text.Unbroken e.2) ∧ ∀ e ∈ t.modifiers, Text.Unbroken e.2

theorem standard_unbroken : standard.Unbroken := by
  constructor <;> simp [standard, Text.Unbroken, Text.isLineBreak, Point.val, Text.lit]

theorem suffix_unbroken {t : Tables} (ht : t.Unbroken) (m : Option (List Point)) :
    Text.Unbroken (t.suffix m) := by
  unfold suffix
  split
  · rename_i name
    cases hv : t.modifiers.lookup (Text.lower name) with
    | none => exact Text.Unbroken.nil
    | some v =>
        obtain ⟨l₁, l₂, heq, -⟩ := List.lookup_eq_some_iff.mp hv
        exact ht.2 _ (heq ▸ List.mem_append_right l₁ List.mem_cons_self)
  · exact Text.Unbroken.nil

theorem templateOf_unbroken {t : Tables} (ht : t.Unbroken) {head : List Point}
    (hh : Text.Unbroken head) : Text.Unbroken (t.templateOf head) := by
  unfold templateOf
  cases hv : t.templates.lookup head with
  | none => exact hh.append (by simp [Text.Unbroken, Text.isLineBreak, Point.val, Text.lit])
  | some v =>
      obtain ⟨l₁, l₂, heq, -⟩ := List.lookup_eq_some_iff.mp hv
      exact ht.1 _ (heq ▸ List.mem_append_right l₁ List.mem_cons_self)

theorem mem_of_mem_unmodify {w : List Point} {c : Point} (h : c ∈ (unmodify w).1) : c ∈ w := by
  unfold unmodify at h
  split at h
  · rename_i m base rest hw
    exact Text.mem_of_mem_splitOn (hw ▸ List.mem_cons_of_mem m List.mem_cons_self) h
  · exact h

theorem baseOf_words_unbroken (hs : Text.Unbroken s) : Text.Unbroken (baseOf (Text.words s)) := by
  refine Text.Unbroken.intercalate (Text.Unbroken.cons_iff.mpr ⟨rfl, Text.Unbroken.nil⟩)
    fun w hw => ?_
  obtain ⟨v, hv, rfl⟩ := List.mem_map.mp hw
  exact (hs.words v hv).of_subset fun _ hc => mem_of_mem_unmodify hc

theorem render_unbroken {t : Tables} (ht : t.Unbroken) {depth : Nat} :
    ∀ {s r : List Point}, t.render depth s = .ok r → Text.Unbroken s → Text.Unbroken r := by
  intro s
  induction hn : s.length using Nat.strong_induction_on generalizing s depth with
  | _ n ih =>
    intro r h hs
    rcases t.render_ok_cases h with ⟨-, rfl⟩ | ⟨before, after, args, filled, hsplit, hargs, hf, rfl⟩
    · exact (baseOf_words_unbroken hs).append (suffix_unbroken ht _)
    · have hparts := Text.eq_of_splitFirst_eq_some hsplit
      rw [hparts] at hs
      have hbefore : Text.Unbroken before := (Text.Unbroken.append_iff.mp
        (Text.Unbroken.append_iff.mp hs).1).1
      have hafter : Text.Unbroken after := (Text.Unbroken.append_iff.mp hs).2
      -- each argument is a piece of the text after ` of `, rendered
      have hargs' : ∀ a ∈ args, Text.Unbroken a := fun a ha => by
        obtain ⟨p, hp, hpa⟩ := mem_of_mapM_ok hargs a ha
        have hlt := length_trim_lt hsplit hp
        exact ih _ (hn ▸ hlt) rfl hpa ((hafter.splitOn _ p hp).trim)
      exact (Pattern.format_unbroken hf (templateOf_unbroken ht (baseOf_words_unbroken hbefore))
        hargs').append (suffix_unbroken ht _)

end Tables

/-- A generator with the standard tables renders a text as the standard tables do, once
there is room for its call and the built-ins it calls. -/
theorem Generator.typeName_ready_text {depth : Nat} (hd : CallDepth.fits (depth + 1) = true)
    (s : List Point) :
    Generator.ready.typeName depth (.text s) = Tables.standard.render depth s := by
  simp only [Generator.typeName, CallDepth.enter, CallDepth.call,
    CallDepth.fits_of_le (Nat.le_succ depth) hd, hd, if_true, Node.asText]
  rfl

/-! ## The standard tables

The standard tables know `List` and `Map`; any other head takes the pattern `head< %s >`. -/

namespace Tables

theorem standard_templateOf_list :
    standard.templateOf (lit "List") = lit "std::vector< %s >" := by
  decide

theorem standard_templateOf_map :
    standard.templateOf (lit "Map") = lit "std::map< %s, %s >" := by
  decide

theorem standard_templateOf_other {head : List Point} (hl : head ≠ lit "List")
    (hm : head ≠ lit "Map") : standard.templateOf head = head ++ lit "< %s >" := by
  have hl' : (head == lit "List") = false := by simpa using hl
  have hm' : (head == lit "Map") = false := by simpa using hm
  have hnone : standard.templates.lookup head = none := by
    rw [show standard.templates = [(lit "List", lit "std::vector< %s >"),
      (lit "Map", lit "std::map< %s, %s >")] from rfl, List.lookup_cons, hl', List.lookup_cons, hm']
    rfl
  rw [templateOf, hnone]
  rfl

theorem standard_suffix_none : standard.suffix none = [] := rfl

end Tables

end StubGen
