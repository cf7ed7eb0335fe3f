/-
# `StubGen.Proofs.TypeName.Faults` — when rendering a type fails, and with which fault

A generator with the standard tables renders a description value as a type.  Once the
call that renders it has room to open, whether it fails, and with what, is decided by the
value alone:

* a value that is no text is refused, as a value of its kind that cannot be split;
* a text without the separator ` of ` is always rendered;
* a text with it, whose head (the part before the first ` of `) holds no percent sign, has
  as argument texts the pieces after that separator, cut at every comma and trimmed
  (`argTexts`).  These are rendered first, left to right, two calls deeper: the first that
  fails gives its fault.  When all are rendered, their number `k` is set against the
  arity of the head (`TypeHead.arity`: two for `Map`, one for any other head): too few is
  the pattern fault of a missing argument, too many that of arguments left over, and as
  many is a rendered type.

## What is proved

`Generator.typeName_outcome` states the four cases above, and the class and text each
fault is reported with.

## Why it holds

The pattern of a head that holds no percent sign is plain: runs without a percent sign
joined by `%s` (`standard_templateOf_plain`), one `%s` for `List` and for any other head,
two for `Map`; a plain pattern fills exactly as many arguments as it has directives
(`Pattern.format_plain`).  The argument texts are rendered by a pass that stops at the
first fault (`mapM_eq_error_of_first`), before the pattern is filled.
-/
import StubGen.Proofs.TypeName

namespace StubGen

open Text (Point lit)
open TypeHead

namespace TypeHead

/-- How many arguments a head takes: two when its words, without their modifiers and
joined by single blanks, are `Map`; one otherwise. -/
def arity (before : List Point) : Nat := if baseOf (Text.words before) = lit "Map" then 2 else 1

/-- The argument texts of a type: the text after the first ` of `, cut at every comma,
each piece trimmed. -/
def argTexts (after : List Point) : List (List Point) :=
  (Text.splitOn (.char ',') after).map Text.trim

theorem mem_baseOf_words {before : List Point} {c : Point} (h : c ∈ baseOf (Text.words before)) :
    c = .char ' ' ∨ c ∈ before := by
  rcases Text.mem_intercalate h with rfl | ⟨w, hw, hcw⟩
  · exact .inl rfl
  · obtain ⟨v, hv, rfl⟩ := List.mem_map.mp hw
    exact .inr (Text.mem_of_mem_words hv (Tables.mem_of_mem_unmodify hcw))

theorem percent_not_mem_baseOf {before : List Point} (h : Point.char '%' ∉ before) :
    Point.char '%' ∉ baseOf (Text.words before) := by
  intro hp
  rcases mem_baseOf_words hp with hsp | hb
  · cases hsp
  · exact h hb

end TypeHead

namespace Tables

/-- The pattern of a head that holds no percent sign is plain: runs without a percent sign
joined by `%s`, two of them for `Map` and one for any other head. -/
theorem standard_templateOf_plain {head : List Point} (hhead : Point.char '%' ∉ head) :
    ∃ runs : List (List Point), standard.templateOf head = (lit "%s").intercalate runs ∧
      runs ≠ [] ∧ (∀ a ∈ runs, Point.char '%' ∉ a) ∧
      runs.length - 1 = if head = lit "Map" then 2 else 1 := by
  by_cases hl : head = lit "List"
  · subst hl
    exact ⟨[lit "std::vector< ", lit " >"], by rw [standard_templateOf_list]; decide,
      by simp, by decide, by decide⟩
  by_cases hm : head = lit "Map"
  · subst hm
    exact ⟨[lit "std::map< ", lit ", ", lit " >"], by rw [standard_templateOf_map]; decide,
      by simp, by decide, by decide⟩
  -- any other head `h` takes the pattern `h< %s >`
  refine ⟨[head ++ lit "< ", lit " >"], ?_, by simp, ?_, by simp [hm]⟩
  · rw [standard_templateOf_other hl hm, List.intercalate_cons_cons, List.intercalate_singleton,
      List.append_assoc, List.append_assoc]
    rfl
  · intro a ha
    rcases List.mem_cons.mp ha with rfl | ha
    · rw [List.mem_append, not_or]
      exact ⟨hhead, by decide⟩
    · rw [List.mem_singleton.mp ha]
      decide

/-- **Arity of a head.**  The pattern of a head that holds no percent sign, filled with the
rendered arguments, finds no argument for a directive when they are fewer than the head's
arity, leaves arguments over when they are more, and is filled when they are as many. -/
theorem format_templateOf {before : List Point} (hbefore : Point.char '%' ∉ before)
    (args : List (List Point)) :
    (args.length < arity before →
        Pattern.format (standard.templateOf (baseOf (Text.words before))) args =
          .error .missingArgument) ∧
    (arity before < args.length →
        Pattern.format (standard.templateOf (baseOf (Text.words before))) args =
          .error .unusedArguments) ∧
    (args.length = arity before →
        ∃ r, Pattern.format (standard.templateOf (baseOf (Text.words before))) args = .ok r) := by
  obtain ⟨runs, hpat, hne, hruns, hlen⟩ :=
    standard_templateOf_plain (percent_not_mem_baseOf hbefore)
  rw [hpat, arity, ← hlen]
  exact Pattern.format_plain hne hruns args

variable {depth : Nat} {s before after : List Point}

theorem render_eq_argTexts (hd : CallDepth.fits (depth + 1) = true)
    (h : Text.splitFirst ofSep s = some (before, after)) :
    standard.render depth s = (do
      let args ← (argTexts after).mapM (standard.render (depth + 2))
      let filled ← (Pattern.format (standard.templateOf (baseOf (Text.words before))) args).mapError
        Fault.pattern
      pure (filled ++ standard.suffix (modifierOf (Text.words before)))) := by
  rw [render_of_splitFirst_some standard hd h, argTexts, List.mapM_map]
  rfl

theorem render_eq_error_of_first (hd : CallDepth.fits (depth + 1) = true)
    (h : Text.splitFirst ofSep s = some (before, after)) {pre post : List (List Point)}
    {p : List Point} {e : Fault} (hargs : argTexts after = pre ++ p :: post)
    (hpre : ∀ q ∈ pre, ∃ r, standard.render (depth + 2) q = .ok r)
    (hp : standard.render (depth + 2) p = .error e) :
    standard.render depth s = .error e := by
  rw [render_eq_argTexts hd h, hargs, mapM_eq_error_of_first post hpre hp]
  rfl

theorem render_of_args (hd : CallDepth.fits (depth + 1) = true)
    (h : Text.splitFirst ofSep s = some (before, after)) {args : List (List Point)}
    (hargs : (argTexts after).mapM (standard.render (depth + 2)) = .ok args) :
    standard.render depth s =
      (fun filled => filled ++ standard.suffix (modifierOf (Text.words before))) <$>
        (Pattern.format (standard.templateOf (baseOf (Text.words before))) args).mapError
          Fault.pattern := by
  rw [render_eq_argTexts hd h, hargs]
  show ((Pattern.format _ args).mapError Fault.pattern >>= fun filled => pure (filled ++ _)) = _
  cases Pattern.format (standard.templateOf (baseOf (Text.words before))) args <;> rfl

end Tables

namespace Generator

variable {depth : Nat}

theorem ready_typeName_text (depth : Nat) (s : List Point) :
    ready.typeName depth (.text s) = Tables.standard.render depth s := by
  by_cases h1 : CallDepth.fits (depth + 1)
  · exact typeName_ready_text h1 s
  · -- both stop at the first call that has no room, before the text is read
    rw [Tables.render]
    by_cases h0 : CallDepth.fits depth
    · simp only [typeName, CallDepth.enter, CallDepth.call, Node.asText, h0, h1, if_true]
      rfl
    · simp only [typeName, CallDepth.enter, h0]
      rfl

theorem typeName_of_not_text (g : Generator) (hd : CallDepth.fits depth = true) {v : Node}
    (hv : v.kind ≠ .text) : g.typeName depth v = .error (.noAttribute v.kind "split") := by
  cases v with
  | text s => exact absurd rfl hv
  | _ =>
      simp only [typeName, CallDepth.enter, hd, if_true, Node.asText]
      rfl

theorem typeName_outcome (hd : CallDepth.fits (depth + 1) = true) :
    (∀ v : Node, v.kind ≠ .text → ready.typeName depth v = .error (.noAttribute v.kind "split")) ∧
    (∀ s, ¬ ofSep <:+: s → ∃ r, ready.typeName depth (.text s) = .ok r) ∧
    (∀ s before after, Text.splitFirst ofSep s = some (before, after) →
      Point.char '%' ∉ before →
      (∀ pre p post e, argTexts after = pre ++ p :: post →
        (∀ q ∈ pre, ∃ r, ready.typeName (depth + 2) (.text q) = .ok r) →
        ready.typeName (depth + 2) (.text p) = .error e →
        ready.typeName depth (.text s) = .error e) ∧
      ((∀ p ∈ argTexts after, ∃ r, ready.typeName (depth + 2) (.text p) = .ok r) →
        ((argTexts after).length < arity before →
          ready.typeName depth (.text s) = .error (.pattern .missingArgument)) ∧
        (arity before < (argTexts after).length →
          ready.typeName depth (.text s) = .error (.pattern .unusedArguments)) ∧
        ((argTexts after).length = arity before →
          ∃ r, ready.typeName depth (.text s) = .ok r))) ∧
    (∀ k : Kind, (Fault.noAttribute k "split").className = "AttributeError" ∧
      (Fault.noAttribute k "split").message =
        "\x27" ++ k.name ++ "\x27 object has no attribute \x27split\x27") ∧
    (Fault.pattern .missingArgument).className = "TypeError" ∧
    (Fault.pattern .missingArgument).message = "not enough arguments for format string" ∧
    (Fault.pattern .unusedArguments).className = "TypeError" ∧
    (Fault.pattern .unusedArguments).message =
      "not all arguments converted during string formatting" := by
  have hd0 : CallDepth.fits depth = true := CallDepth.fits_of_le (Nat.le_succ depth) hd
  refine ⟨fun v hv => typeName_of_not_text ready hd0 hv, fun s hs => ?_,
    fun s before after hs hbefore => ⟨?_, fun hall => ?_⟩, fun k => ⟨rfl, ?_⟩,
    rfl, rfl, rfl, rfl⟩
  · -- no ` of `: the head words and the suffix
    rw [ready_typeName_text]
    exact ⟨_, Tables.render_of_splitFirst_none _ hd (Text.splitFirst_eq_none_iff.mpr hs)⟩
  · intro pre p post e hargs hpre hp
    simp only [ready_typeName_text] at hpre hp ⊢
    exact Tables.render_eq_error_of_first hd hs hargs hpre hp
  · -- every argument text renders: the arity of the head decides
    simp only [ready_typeName_text] at hall ⊢
    obtain ⟨args, hargs, hlen⟩ := mapM_ok_of_forall hall
    obtain ⟨hfew, hmany, hsame⟩ := Tables.format_templateOf hbefore args
    rw [Tables.render_of_args hd hs hargs, ← hlen]
    refine ⟨fun hk => ?_, fun hk => ?_, fun hk => ?_⟩
    · rw [hfew hk]
      rfl
    · rw [hmany hk]
      rfl
    · obtain ⟨r, hr⟩ := hsame hk
      exact ⟨_, by rw [hr]; rfl⟩
  · cases k <;> decide

/-- A map given one argument: the argument renders, and a map takes two. -/
theorem typeName_outcome_mapOfOne :
    CallDepth.fits (4 + 1) = true ∧
      ready.typeName 4 (.text (lit "Map of int")) = .error (.pattern .missingArgument) := by
  have hd : CallDepth.fits (4 + 1) = true := by decide
  have hs : Text.splitFirst ofSep (lit "Map of int") = some (lit "Map", lit "int") := by decide
  have hargs : argTexts (lit "int") = [lit "int"] := by decide
  have harity : arity (lit "Map") = 2 := by
    rw [arity, Text.words_of_word (by decide) (by decide)]
    decide
  have hall : ∀ p ∈ argTexts (lit "int"), ∃ r, ready.typeName (4 + 2) (.text p) = .ok r := by
    rw [hargs]
    intro p hp
    rw [List.mem_singleton.mp hp, ready_typeName_text]
    exact ⟨_, Tables.render_of_splitFirst_none _ (by decide) (by decide)⟩
  refine ⟨hd, (((typeName_outcome hd).2.2.1 _ _ _ hs (by decide)).2 hall).1 ?_⟩
  rw [hargs, harity]
  decide

end Generator

end StubGen
