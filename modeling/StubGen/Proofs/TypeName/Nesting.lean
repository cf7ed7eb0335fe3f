/-
# `StubGen.Proofs.TypeName.Nesting` — how deep rendering a type recurs

Rendering a type (`Tables.render`) recurs on the pieces of the text after its first
` of `, cut at every comma and trimmed.  Each such piece is shorter than the type by the
four characters of the separator at least (`length_trim_piece_add_four_le`): that is the
measure the rendering terminates by, whatever blanks and empty pieces the cutting leaves.

How deep the recursion goes is `Tables.nesting`: nothing for a type without ` of `, one
level more than its deepest piece otherwise.  Each level opens two calls, so a rendering
begun with `depth` calls open reaches `depth + 2 * nesting s + 1`:

* a rendering that succeeds had room for that many (`fits_nesting_of_render_ok`);
* with room for that many, a rendering never runs out of room
  (`render_ne_tooDeep`): it succeeds, or fails for a reason of the type itself.

The nesting is at most the number of places at which ` of ` occurs in the type
(`nesting_le_occurrences`).  The level splits at one occurrence, and its pieces stand in
the text after it, so each holds no more occurrences than that text does; the bound then
follows by induction on the length of the type.
-/
import StubGen.Proofs.TypeName

namespace StubGen

open Text (Point lit)
open TypeHead

/-! ## Largest values

The nesting of a type is a largest value over its pieces, taken by a fold with `max`. -/

theorem le_foldl_max_start (l : List Nat) (a : Nat) : a ≤ l.foldl max a := by
  induction l generalizing a with
  | nil => exact Nat.le_refl a
  | cons y l ih => exact Nat.le_trans (Nat.le_max_left a y) (ih (max a y))

theorem le_foldl_max {l : List Nat} {x : Nat} (hx : x ∈ l) (a : Nat) : x ≤ l.foldl max a := by
  induction l generalizing a with
  | nil => cases hx
  | cons y l ih =>
    rw [List.foldl_cons]
    rcases List.mem_cons.mp hx with rfl | hx
    · exact Nat.le_trans (Nat.le_max_right a x) (le_foldl_max_start l _)
    · exact ih hx (max a y)

theorem foldl_max_le {l : List Nat} {a m : Nat} (ha : a ≤ m) (h : ∀ x ∈ l, x ≤ m) :
    l.foldl max a ≤ m := by
  induction l generalizing a with
  | nil => exact ha
  | cons y l ih =>
    exact ih (Nat.max_le.mpr ⟨ha, h y List.mem_cons_self⟩)
      fun x hx => h x (List.mem_cons_of_mem y hx)

theorem foldl_max_le_start_or_mem (l : List Nat) (a : Nat) :
    l.foldl max a ≤ a ∨ ∃ x ∈ l, l.foldl max a ≤ x := by
  induction l generalizing a with
  | nil => exact .inl (Nat.le_refl a)
  | cons y l ih =>
    rw [List.foldl_cons]
    rcases ih (max a y) with h | ⟨x, hx, h⟩
    · rcases Nat.le_total y a with hy | hy
      · exact .inl (h.trans (Nat.max_le.mpr ⟨Nat.le_refl a, hy⟩))
      · exact .inr ⟨y, List.mem_cons_self, h.trans (Nat.max_le.mpr ⟨hy, Nat.le_refl y⟩)⟩
    · exact .inr ⟨x, List.mem_cons_of_mem y hx, h⟩

theorem exists_ge_foldl_max {l : List Nat} (hl : l ≠ []) : ∃ x ∈ l, l.foldl max 0 ≤ x := by
  rcases foldl_max_le_start_or_mem l 0 with h | h
  · obtain ⟨y, hy⟩ := List.exists_mem_of_ne_nil l hl
    exact ⟨y, hy, Nat.le_trans h (Nat.zero_le y)⟩
  · exact h

/-! ## Occurrences of a separator

A piece between separators stands in the text, so it holds the separator at no more
places than the text, and at fewer than the text once the text is cut at one of them. -/

namespace Text

variable {sep : List Point}

theorem occurrences_add_le_append (hsep : sep ≠ []) :
    ∀ (a b : List Point), occurrences sep a + occurrences sep b ≤ occurrences sep (a ++ b)
  | [], b => by simp [occurrences, List.isEmpty_iff, hsep]
  | c :: a, b => by
    have ih := occurrences_add_le_append hsep a b
    -- an occurrence at the start of `c :: a` is one at the start of `c :: a ++ b`
    have hstart : sep.isPrefixOf (c :: a) = true → sep.isPrefixOf (c :: a ++ b) = true := by
      simp only [List.isPrefixOf_iff_prefix]
      exact fun h => h.trans (List.prefix_append _ _)
    simp only [occurrences, List.cons_append] at hstart ⊢
    split <;> split <;> simp_all <;> omega

theorem occurrences_le_of_infix (hsep : sep ≠ []) {u v : List Point} (h : u <:+: v) :
    occurrences sep u ≤ occurrences sep v := by
  obtain ⟨a, b, rfl⟩ := h
  have h1 := occurrences_add_le_append hsep (a ++ u) b
  have h2 := occurrences_add_le_append hsep a u
  omega

theorem one_le_occurrences_self (hsep : sep ≠ []) : 1 ≤ occurrences sep sep := by
  obtain ⟨c, rest, rfl⟩ := List.exists_cons_of_ne_nil hsep
  simp [occurrences, List.isPrefixOf_iff_prefix]

theorem occurrences_after_lt (hsep : sep ≠ []) {s before after : List Point}
    (h : splitFirst sep s = some (before, after)) :
    occurrences sep after + 1 ≤ occurrences sep s := by
  rw [eq_of_splitFirst_eq_some h]
  have h1 := occurrences_add_le_append hsep (before ++ sep) after
  have h2 := occurrences_add_le_append hsep before sep
  have h3 := one_le_occurrences_self hsep
  omega

theorem splitOn_ne_nil (c : Point) (s : List Point) : splitOn c s ≠ [] := by
  rw [splitOn_eq_listSplitOn]
  exact List.splitOn_ne_nil _ _

theorem splitOn_pieces_isInfix (c : Point) :
    ∀ (s : List Point), (∀ p ∈ splitOn c s, p <:+: s) ∧
      ∀ p more, splitOn c s = p :: more → p <+: s
  | [] => by
    refine ⟨fun p hp => ?_, fun p more h => ?_⟩
    · simp only [splitOn, List.mem_singleton] at hp
      exact hp ▸ List.nil_infix
    · simp only [splitOn, List.cons.injEq] at h
      exact h.1 ▸ List.nil_prefix
  | d :: s => by
    obtain ⟨hin, hhead⟩ := splitOn_pieces_isInfix c s
    have hcons : ∀ p, p <:+: s → p <:+: d :: s := fun p hp => hp.trans (List.suffix_cons d s).isInfix
    by_cases hd : d = c
    · -- a cut: an empty piece, then the pieces of the rest
      subst hd
      simp only [splitOn, if_true, List.mem_cons, List.cons.injEq]
      refine ⟨fun p hp => ?_, fun p more h => h.1 ▸ List.nil_prefix⟩
      rcases hp with rfl | hp
      · exact List.nil_infix
      · exact hcons p (hin p hp)
    · -- no cut: `d` starts the first piece of the rest
      rw [splitOn, if_neg hd]
      cases hs : splitOn c s with
      | nil => exact absurd hs (splitOn_ne_nil c s)
      | cons q more =>
        have hq : d :: q <+: d :: s := (List.prefix_cons_inj d).mpr (hhead q more hs)
        refine ⟨fun p hp => ?_, fun p more' h => ?_⟩
        · rcases List.mem_cons.mp hp with rfl | hp
          · exact hq.isInfix
          · exact hcons p (hin p (hs ▸ List.mem_cons_of_mem q hp))
        · simp only [List.cons.injEq] at h
          exact h.1 ▸ hq

theorem infix_of_mem_splitOn {c : Point} {s p : List Point} (h : p ∈ splitOn c s) : p <:+: s :=
  (splitOn_pieces_isInfix c s).1 p h

theorem trim_infix (s : List Point) : trim s <:+: s := by
  have hstart : trimStart s <:+ s := List.dropWhile_suffix isBlank
  have hend : trimEnd (trimStart s) <+: trimStart s := by
    have h := List.reverse_prefix.mpr (List.dropWhile_suffix (l := (trimStart s).reverse) isBlank)
    rwa [List.reverse_reverse] at h
  exact hend.isInfix.trans hstart.isInfix

end Text

namespace Tables

theorem ofSep_ne_nil : ofSep ≠ [] := by
  simp [ofSep]

/-! ## The measure of the recursion

Each piece of the arguments is shorter than the type by the four characters of ` of ` at
least: the measure the recursion of rendering decreases. -/

/-- Each piece of the arguments of a type, trimmed, is shorter than the type by the four
characters of ` of ` at least. -/
theorem length_trim_piece_add_four_le {s before after p : List Point}
    (h : Text.splitFirst ofSep s = some (before, after))
    (hp : p ∈ Text.splitOn (.char ',') after) : (Text.trim p).length + 4 ≤ s.length := by
  have h1 := Text.length_trim_le p
  have h2 := Text.length_le_of_mem_splitOn hp
  have h3 := Text.splitFirst_length h
  simp only [ofSep, List.length_cons, List.length_nil] at h3
  omega

/-! ## The nesting of a type

A type without ` of ` does not recur, and one with ` of ` recurs one level deeper than its
deepest piece; every level uses up one occurrence of ` of `. -/

theorem nesting_of_splitFirst_none {s : List Point} (h : Text.splitFirst ofSep s = none) :
    nesting s = 0 := by
  rw [nesting]
  split
  · rfl
  · rename_i hs
    rw [h] at hs
    cases hs

theorem nesting_of_splitFirst_some {s before after : List Point}
    (h : Text.splitFirst ofSep s = some (before, after)) :
    nesting s =
      1 + ((Text.splitOn (.char ',') after).map fun p => nesting (Text.trim p)).foldl max 0 := by
  rw [nesting]
  split
  · rename_i hs
    rw [h] at hs
    cases hs
  · rename_i b a hs
    rw [h] at hs
    cases hs
    rw [List.map_subtype (g := fun p => nesting (Text.trim p)) (fun _ _ => rfl),
      List.unattach_attach]

/-- **Nesting against occurrences.**  A type nests no deeper than the number of places at
which ` of ` occurs in it. -/
theorem nesting_le_occurrences (s : List Point) : nesting s ≤ Text.occurrences ofSep s := by
  induction hn : s.length using Nat.strong_induction_on generalizing s with
  | _ n ih =>
    cases hs : Text.splitFirst ofSep s with
    | none => simp [nesting_of_splitFirst_none hs]
    | some split =>
      obtain ⟨before, after⟩ := split
      -- every piece nests no deeper than the occurrences after the first ` of `
      have hpieces : ∀ p ∈ Text.splitOn (.char ',') after,
          nesting (Text.trim p) ≤ Text.occurrences ofSep after := fun p hp =>
        calc nesting (Text.trim p)
            ≤ Text.occurrences ofSep (Text.trim p) := ih _ (hn ▸ length_trim_lt hs hp) _ rfl
          _ ≤ Text.occurrences ofSep after := Text.occurrences_le_of_infix ofSep_ne_nil
              ((Text.trim_infix p).trans (Text.infix_of_mem_splitOn hp))
      have hmax : ((Text.splitOn (.char ',') after).map fun p => nesting (Text.trim p)).foldl
          max 0 ≤ Text.occurrences ofSep after :=
        foldl_max_le (Nat.zero_le _) fun x hx => by
          obtain ⟨p, hp, rfl⟩ := List.mem_map.mp hx
          exact hpieces p hp
      have hafter := Text.occurrences_after_lt ofSep_ne_nil hs
      rw [nesting_of_splitFirst_some hs]
      omega

/-! ## The calls a rendering opens

Each level of the recursion opens two calls.  With room for the calls of the deepest
level no call runs out of room, and a rendering that succeeds had that room. -/

theorem exists_mem_of_mapM_error {α β ε : Type} {f : α → Except ε β} :
    ∀ {l : List α} {e : ε}, l.mapM f = .error e → ∃ x ∈ l, f x = .error e
  | [], e, h => by cases h
  | a :: l, e, h => by
    rw [List.mapM_cons] at h
    cases hfa : f a with
    | error e' =>
      rw [hfa] at h
      cases h
      exact ⟨a, List.mem_cons_self, hfa⟩
    | ok v =>
      rw [hfa] at h
      cases hl : l.mapM f with
      | error e' =>
        rw [hl] at h
        cases h
        obtain ⟨x, hx, hfx⟩ := exists_mem_of_mapM_error hl
        exact ⟨x, List.mem_cons_of_mem a hx, hfx⟩
      | ok vs =>
        rw [hl] at h
        cases h

variable {t : Tables}

/-- A rendering that succeeds had room for the calls of its deepest level. -/
theorem fits_nesting_of_render_ok :
    ∀ {depth : Nat} {s r : List Point}, t.render depth s = .ok r →
      CallDepth.fits (depth + 2 * nesting s + 1) = true := by
  intro depth s
  induction hn : s.length using Nat.strong_induction_on generalizing s depth with
  | _ n ih =>
    intro r h
    rcases t.render_ok_cases h with ⟨hs, -⟩ | ⟨before, after, args, filled, hs, hargs, -, -⟩
    · rw [nesting_of_splitFirst_none hs]
      exact t.fits_of_render_ok h
    · -- the deepest piece rendered two calls deeper, with room for its own deepest level
      have hne : (Text.splitOn (.char ',') after).map (fun p => nesting (Text.trim p)) ≠ [] := by
        rw [Ne, List.map_eq_nil_iff]
        exact Text.splitOn_ne_nil _ _
      obtain ⟨x, hx, hmax⟩ := exists_ge_foldl_max hne
      obtain ⟨p, hp, rfl⟩ := List.mem_map.mp hx
      obtain ⟨y, hy⟩ : ∃ y, t.render (depth + 2) (Text.trim p) = .ok y := by
        cases hpy : t.render (depth + 2) (Text.trim p) with
        | ok y => exact ⟨y, rfl⟩
        | error e =>
          obtain ⟨e', he'⟩ :=
            mapM_error_of_mem (f := fun p => t.render (depth + 2) (Text.trim p)) ⟨p, hp, e, hpy⟩
          rw [hargs] at he'
          cases he'
      have hdeep := @ih _ (hn ▸ length_trim_lt hs hp) (depth + 2) _ rfl _ hy
      rw [nesting_of_splitFirst_some hs]
      exact CallDepth.fits_of_le (by omega) hdeep

/-- **Room for the deepest level.**  With room for the calls of its deepest level, a
rendering does not run out of room: it succeeds, or fails for a reason of the type. -/
theorem render_ne_tooDeep :
    ∀ {depth : Nat} {s : List Point}, CallDepth.fits (depth + 2 * nesting s + 1) = true →
      ∀ o, t.render depth s ≠ .error (.tooDeep o) := by
  intro depth s
  induction hn : s.length using Nat.strong_induction_on generalizing s depth with
  | _ n ih =>
    intro hfits o
    have hd : CallDepth.fits (depth + 1) = true := CallDepth.fits_of_le (by omega) hfits
    cases hs : Text.splitFirst ofSep s with
    | none =>
      rw [t.render_of_splitFirst_none hd hs]
      intro heq
      cases heq
    | some split =>
      obtain ⟨before, after⟩ := split
      rw [nesting_of_splitFirst_some hs] at hfits
      rw [t.render_of_splitFirst_some hd hs]
      cases hargs : (Text.splitOn (.char ',') after).mapM
          (fun p => t.render (depth + 2) (Text.trim p)) with
      | error e =>
        -- the pass failed at a piece, which had room for its own deepest level
        obtain ⟨p, hp, hpe⟩ := exists_mem_of_mapM_error hargs
        have hroom : CallDepth.fits (depth + 2 + 2 * nesting (Text.trim p) + 1) = true := by
          have hle := le_foldl_max (List.mem_map_of_mem (f := fun p => nesting (Text.trim p)) hp) 0
          exact CallDepth.fits_of_le (by omega) hfits
        intro heq
        exact ih _ (hn ▸ length_trim_lt hs hp) rfl hroom o (hpe.trans (Except.error.inj heq ▸ rfl))
      | ok args =>
        -- the pieces rendered: what is left can fail only in filling the pattern
        show ((Pattern.format _ args).mapError Fault.pattern >>= fun filled => pure (filled ++ _)) ≠ _
        cases Pattern.format (t.templateOf (baseOf (Text.words before))) args <;>
          · intro heq
            cases heq

/-- **How deep rendering a type recurs.**  Every recursive call is made on a piece of the
text after the first ` of `, trimmed, which is shorter than the type by four characters at
least, so rendering terminates on every text.  The recursion is `nesting s` levels deep:
a rendering begun with `depth` calls open that has room for `depth + 2 * nesting s + 1`
never runs out of room, one that succeeds had that room, and `nesting s` is at most the
number of places at which ` of ` occurs in the type. -/
theorem render_recursion_bounded (t : Tables) (depth : Nat) (s : List Point) :
    (∀ before after, Text.splitFirst ofSep s = some (before, after) →
      ∀ p ∈ Text.splitOn (.char ',') after, (Text.trim p).length + 4 ≤ s.length) ∧
    nesting s ≤ Text.occurrences ofSep s ∧
    (CallDepth.fits (depth + 2 * nesting s + 1) = true →
      ∀ o, t.render depth s ≠ .error (.tooDeep o)) ∧
    ∀ r, t.render depth s = .ok r → CallDepth.fits (depth + 2 * nesting s + 1) = true :=
  ⟨fun _ _ h _ hp => length_trim_piece_add_four_le h hp, nesting_le_occurrences s,
    render_ne_tooDeep, fun _ h => fits_nesting_of_render_ok h⟩

/-- Four lists deep, rendered with 990 calls open: the deepest level reaches call 999, the
last the stack has room for. -/
theorem render_recursion_bounded_deep :
    CallDepth.fits (990 + 2 * nesting (lit "List of List of List of List of int") + 1) = true ∧
      ∀ o, standard.render 990 (lit "List of List of List of List of int") ≠ .error (.tooDeep o) :=
  have hfits : CallDepth.fits
      (990 + 2 * nesting (lit "List of List of List of List of int") + 1) = true := by
    cbv
  ⟨hfits, (render_recursion_bounded standard 990 _).2.2.1 hfits⟩

end Tables

end StubGen
