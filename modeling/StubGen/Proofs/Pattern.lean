/-
# `StubGen.Proofs.Pattern` — filling patterns whose directives are plain

The templates of the standard tables, and the pattern `h< %s >` of a head the tables do
not know, hold no directive but plain `%s`, each standing between runs of characters
with no percent sign.  Such a pattern is filled by writing each argument in the place of
its directive, provided there are as many arguments as directives:

    format_one : format (a ++ lit "%s" ++ b) [x] = .ok (a ++ x ++ b)
    format_two : format (a ++ lit "%s" ++ b ++ lit "%s" ++ c) [x, y]
                   = .ok (a ++ x ++ b ++ y ++ c)

for `a`, `b`, `c` without percent signs; with one argument too few, the pattern of two
directives fails (`format_two_of_one`).  The reader turns a character other than a
percent sign into itself (`readFrom_text_cons`), so a run without one is read as its
characters (`readFrom_text_append`); `%s` is read as a directive with no flag, width or
precision (`readFrom_percent_s`), which the filler replaces by its argument as it is
(`fill_plain`).
-/
import StubGen.Pattern
import StubGen.Proofs.Text.Unbroken

namespace StubGen

theorem Except.bind_eq_ok {ε α β : Type} {x : Except ε α} {f : α → Except ε β} {b : β} :
    x >>= f = .ok b ↔ ∃ a, x = .ok a ∧ f a = .ok b := by
  cases x <;> simp [bind, Except.bind]

theorem Except.map_eq_ok {ε α β : Type} {x : Except ε α} {f : α → β} {b : β} :
    f <$> x = .ok b ↔ ∃ a, x = .ok a ∧ f a = b := by
  cases x <;> simp [Functor.map, Except.map]

namespace Pattern

open Text (Point lit)

/-! ## Reading

A pattern is read into pieces, characters and directives; outside a directive a
character other than a percent sign stands for itself, and `%s` is a directive with no
flag, width or precision. -/

/-- Outside a directive, a character other than a percent sign stands for itself. -/
theorem readFrom_text_cons {c : Point} (hc : c ≠ .char '%') (i : Nat) (cs : List Point) :
    readFrom .text i (c :: cs) =
      ⟨.char c :: (readFrom .text (i + 1) cs).pieces, (readFrom .text (i + 1) cs).stop⟩ := by
  simp [readFrom, step, hc]

/-- A run of characters without a percent sign is read as those characters. -/
theorem readFrom_text_append {p : List Point} (hp : .char '%' ∉ p) (i : Nat)
    (rest : List Point) :
    readFrom .text i (p ++ rest) =
      ⟨p.map .char ++ (readFrom .text (i + p.length) rest).pieces,
        (readFrom .text (i + p.length) rest).stop⟩ := by
  induction p generalizing i with
  | nil => rfl
  | cons c p ih =>
      have hc : c ≠ .char '%' := fun h => hp (h ▸ List.mem_cons_self)
      have hp' : .char '%' ∉ p := fun h => hp (List.mem_cons_of_mem c h)
      rw [List.cons_append, readFrom_text_cons hc, ih hp' (i + 1)]
      simp only [List.map_cons, List.cons_append, List.length_cons]
      rw [Nat.add_assoc, Nat.add_comm 1 p.length]

/-- `%s` is read as a directive with no flag, width or precision. -/
theorem readFrom_percent_s (i : Nat) (rest : List Point) :
    readFrom .text i (.char '%' :: .char 's' :: rest) =
      ⟨.spec ⟨false, 0, none, .char 's', i + 1⟩ :: (readFrom .text (i + 2) rest).pieces,
        (readFrom .text (i + 2) rest).stop⟩ := by
  simp [readFrom, step, afterFlags, isSizeLetter, Point.isDigit]

theorem readFrom_text_of_percentFree {p : List Point} (hp : .char '%' ∉ p) (i : Nat) :
    readFrom .text i p = ⟨p.map .char, none⟩ := by
  have h := readFrom_text_append hp i []
  rw [List.append_nil] at h
  rw [h]
  simp [readFrom]

/-! ## Filling

Filling takes one argument per directive and leaves characters as they are; a plain `%s`
puts its argument as it is. -/

theorem fill_chars (cs : List Point) (pieces : List Piece) (stop : Option Stop)
    (args : List (List Point)) :
    fill (cs.map .char ++ pieces) stop args = (cs ++ ·) <$> fill pieces stop args := by
  induction cs with
  | nil => simp
  | cons c cs ih =>
      simp only [List.map_cons, List.cons_append, fill, ih]
      cases fill pieces stop args <;> rfl

theorem fill_chars_nil (cs : List Point) : fill (cs.map .char) none [] = .ok cs := by
  have h := fill_chars cs [] none []
  rw [List.append_nil] at h
  rw [h]
  exact congrArg Except.ok (List.append_nil cs)

/-- A directive with no flag, width or precision converting by `s` is filled with its
argument as it is. -/
theorem fill_plain (i : Nat) (pieces : List Piece) (stop : Option Stop) (x : List Point)
    (args : List (List Point)) :
    fill (.spec ⟨false, 0, none, .char 's', i⟩ :: pieces) stop (x :: args) =
      (x ++ ·) <$> fill pieces stop args := by
  have happly : Spec.apply ⟨false, 0, none, .char 's', i⟩ x = .ok x := by
    simp [Spec.apply, Spec.pad, Spec.cut, memoryLimit]
  simp only [fill, happly]
  cases fill pieces stop args <;> rfl

/-! ## Plain patterns

The patterns of the type tables have one or two plain directives; these cases are read
and filled directly, and a pattern of two filled with one argument finds none for its
second directive. -/

theorem format_one {a b : List Point} (ha : .char '%' ∉ a) (hb : .char '%' ∉ b)
    (x : List Point) : format (a ++ lit "%s" ++ b) [x] = .ok (a ++ x ++ b) := by
  have hread : read (a ++ lit "%s" ++ b) =
      ⟨a.map .char ++ .spec ⟨false, 0, none, .char 's', a.length + 1⟩ :: b.map .char, none⟩ := by
    rw [read, List.append_assoc, readFrom_text_append ha]
    simp only [Nat.zero_add]
    rw [show lit "%s" ++ b = .char '%' :: .char 's' :: b from rfl, readFrom_percent_s,
      readFrom_text_of_percentFree hb]
  rw [format, hread]
  simp only
  rw [fill_chars, fill_plain, fill_chars_nil]
  simp only [List.append_assoc]
  rfl

theorem read_two {a b c : List Point} (ha : .char '%' ∉ a) (hb : .char '%' ∉ b)
    (hc : .char '%' ∉ c) :
    read (a ++ lit "%s" ++ b ++ lit "%s" ++ c) =
      ⟨a.map .char ++ .spec ⟨false, 0, none, .char 's', a.length + 1⟩ ::
        (b.map .char ++ .spec ⟨false, 0, none, .char 's', a.length + 2 + b.length + 1⟩ ::
          c.map .char), none⟩ := by
  rw [read, List.append_assoc, List.append_assoc, List.append_assoc, readFrom_text_append ha]
  simp only [Nat.zero_add]
  rw [show lit "%s" ++ (b ++ (lit "%s" ++ c)) = .char '%' :: .char 's' :: (b ++ (lit "%s" ++ c))
    from rfl, readFrom_percent_s, readFrom_text_append hb,
    show lit "%s" ++ c = .char '%' :: .char 's' :: c from rfl, readFrom_percent_s,
    readFrom_text_of_percentFree hc]

theorem format_two {a b c : List Point} (ha : .char '%' ∉ a) (hb : .char '%' ∉ b)
    (hc : .char '%' ∉ c) (x y : List Point) :
    format (a ++ lit "%s" ++ b ++ lit "%s" ++ c) [x, y] = .ok (a ++ x ++ b ++ y ++ c) := by
  rw [format, read_two ha hb hc]
  simp only
  rw [fill_chars, fill_plain, fill_chars, fill_plain, fill_chars_nil]
  simp only [List.append_assoc]
  rfl

/-- A pattern with two plain directives and a single argument: the second directive finds
no argument. -/
theorem format_two_of_one {a b c : List Point} (ha : .char '%' ∉ a) (hb : .char '%' ∉ b)
    (hc : .char '%' ∉ c) (x : List Point) :
    format (a ++ lit "%s" ++ b ++ lit "%s" ++ c) [x] = .error .missingArgument := by
  rw [format, read_two ha hb hc]
  simp only
  rw [fill_chars, fill_plain, fill_chars]
  rfl

/-! ## Patterns of plain directives

A pattern is plain when its directives are all `%s` and stand between runs without a
percent sign: `(lit "%s").intercalate runs`, with `runs.length - 1` directives.  Filled
with `k` arguments, a plain pattern of `n` directives fails for want of an argument when
`k < n`, fails with arguments left over when `n < k`, and is filled when `k = n`
(`format_plain`): each directive takes one argument, and a plain directive never refuses
the text it is given. -/

/-- A piece that fills without fault: a character, or `%s` with no flag, width or
precision. -/
def Piece.IsPlain : Piece → Prop
  | .char _ => True
  | .spec s => ∃ i, s = ⟨false, 0, none, .char 's', i⟩

/-- Whether a piece is a directive. -/
def Piece.isSpec : Piece → Bool
  | .char _ => false
  | .spec _ => true

theorem fill_of_plain :
    ∀ {pieces : List Piece}, (∀ p ∈ pieces, p.IsPlain) → ∀ args : List (List Point),
      (args.length < pieces.countP Piece.isSpec →
          fill pieces none args = .error .missingArgument) ∧
      (pieces.countP Piece.isSpec < args.length →
          fill pieces none args = .error .unusedArguments) ∧
      (args.length = pieces.countP Piece.isSpec → ∃ r, fill pieces none args = .ok r)
  | [], _, [] => ⟨by simp, by simp, fun _ => ⟨[], rfl⟩⟩
  | [], _, _ :: _ => ⟨by simp, fun _ => rfl, by simp⟩
  | .char c :: pieces, h, args => by
      obtain ⟨hfew, hmany, hsame⟩ := fill_of_plain (fun p hp => h p (List.mem_cons_of_mem _ hp)) args
      have hcount : (Piece.char c :: pieces).countP Piece.isSpec = pieces.countP Piece.isSpec := by
        simp [Piece.isSpec]
      rw [hcount]
      refine ⟨fun hk => ?_, fun hk => ?_, fun hk => ?_⟩
      · simp only [fill, hfew hk]
        rfl
      · simp only [fill, hmany hk]
        rfl
      · obtain ⟨r, hr⟩ := hsame hk
        exact ⟨c :: r, by simp only [fill, hr]; rfl⟩
  | .spec s :: pieces, h, args => by
      obtain ⟨i, rfl⟩ : ∃ i, s = ⟨false, 0, none, .char 's', i⟩ := h _ List.mem_cons_self
      have hcount : (Piece.spec ⟨false, 0, none, .char 's', i⟩ :: pieces).countP Piece.isSpec =
          pieces.countP Piece.isSpec + 1 := by
        rw [List.countP_cons]
        rfl
      rw [hcount]
      cases args with
      | nil => exact ⟨fun _ => rfl, by simp, by simp⟩
      | cons x args =>
          -- the directive takes `x` as it is, and the rest fill the other pieces
          obtain ⟨hfew, hmany, hsame⟩ :=
            fill_of_plain (fun p hp => h p (List.mem_cons_of_mem _ hp)) args
          rw [fill_plain, List.length_cons]
          refine ⟨fun hk => ?_, fun hk => ?_, fun hk => ?_⟩
          · rw [hfew (by omega)]
            rfl
          · rw [hmany (by omega)]
            rfl
          · obtain ⟨r, hr⟩ := hsame (by omega)
            exact ⟨x ++ r, by rw [hr]; rfl⟩

theorem countP_isSpec_map_char (a : List Point) : (a.map Piece.char).countP Piece.isSpec = 0 := by
  simp [List.countP_eq_zero, Piece.isSpec]

theorem readFrom_plain (i : Nat) :
    ∀ (a : List Point) (runs : List (List Point)), .char '%' ∉ a → (∀ b ∈ runs, .char '%' ∉ b) →
      ∃ pieces, readFrom .text i ((lit "%s").intercalate (a :: runs)) = ⟨pieces, none⟩ ∧
        (∀ p ∈ pieces, p.IsPlain) ∧ pieces.countP Piece.isSpec = runs.length := by
  intro a runs
  induction runs generalizing a i with
  | nil =>
      intro ha _
      refine ⟨a.map .char, ?_, fun p hp => ?_, ?_⟩
      · rw [List.intercalate_singleton, readFrom_text_of_percentFree ha]
      · obtain ⟨c, -, rfl⟩ := List.mem_map.mp hp
        trivial
      · exact countP_isSpec_map_char a
  | cons b runs ih =>
      intro ha hruns
      obtain ⟨pieces, hread, hplain, hcount⟩ :=
        ih (i + a.length + 2) b (hruns b List.mem_cons_self)
          fun c hc => hruns c (List.mem_cons_of_mem b hc)
      refine ⟨a.map .char ++ .spec ⟨false, 0, none, .char 's', i + a.length + 1⟩ :: pieces,
        ?_, fun p hp => ?_, ?_⟩
      · rw [List.intercalate_cons_cons, List.append_assoc, readFrom_text_append ha,
          show lit "%s" ++ (lit "%s").intercalate (b :: runs) =
            .char '%' :: .char 's' :: (lit "%s").intercalate (b :: runs) from rfl,
          readFrom_percent_s, hread]
      · rcases List.mem_append.mp hp with hp | hp
        · obtain ⟨c, -, rfl⟩ := List.mem_map.mp hp
          trivial
        · rcases List.mem_cons.mp hp with rfl | hp
          · exact ⟨_, rfl⟩
          · exact hplain p hp
      · rw [List.countP_append, countP_isSpec_map_char, List.countP_cons, hcount]
        simp [Piece.isSpec]

/-- **Arity of a plain pattern.**  A pattern of runs without a percent sign joined by `%s`,
filled with fewer arguments than directives, finds no argument for a directive; with more,
leaves arguments over; with as many, is filled. -/
theorem format_plain {runs : List (List Point)} (hne : runs ≠ [])
    (hruns : ∀ a ∈ runs, .char '%' ∉ a) (args : List (List Point)) :
    (args.length < runs.length - 1 →
        format ((lit "%s").intercalate runs) args = .error .missingArgument) ∧
    (runs.length - 1 < args.length →
        format ((lit "%s").intercalate runs) args = .error .unusedArguments) ∧
    (args.length = runs.length - 1 → ∃ r, format ((lit "%s").intercalate runs) args = .ok r) := by
  obtain ⟨a, rest, rfl⟩ := List.exists_cons_of_ne_nil hne
  obtain ⟨pieces, hread, hplain, hcount⟩ := readFrom_plain 0 a rest
    (hruns a List.mem_cons_self) fun b hb => hruns b (List.mem_cons_of_mem a hb)
  rw [List.length_cons, Nat.add_sub_cancel, ← hcount]
  rw [format, read, hread]
  exact fill_of_plain hplain args

/-! ## Filled patterns stand on one line

The characters of a filled pattern come from the pattern, from the arguments and from
the padding and quoting of directives; so a pattern and arguments that break no line
fill a text that breaks none (`format_unbroken`). -/

open Text (Unbroken)

theorem afterFlags_put {left : Bool} {c : Point} {i : Nat} {p : Piece}
    (h : afterFlags left c i = .put p) : ∃ s, p = .spec s := by
  unfold afterFlags at h
  grind

theorem step_put_char {s : State} {c d : Point} {i : Nat} (h : step s c i = .put (.char d)) :
    d = c := by
  cases s with
  | text | start =>
      simp only [step] at h
      grind [afterFlags_put]
  | flags left =>
      obtain ⟨_, h'⟩ := afterFlags_put h
      cases h'
  | width | point | precision | sized =>
      simp only [step] at h
      grind

theorem mem_of_char_mem_readFrom :
    ∀ {s : State} {i : Nat} {p : List Point} {d : Point},
      Piece.char d ∈ (readFrom s i p).pieces → d ∈ p
  | s, _, [], _, h => by
      cases s <;> simp [readFrom] at h
  | s, i, c :: cs, d, h => by
      simp only [readFrom] at h
      split at h
      · exact List.mem_cons_of_mem c (mem_of_char_mem_readFrom h)
      · rename_i p hstep
        rcases List.mem_cons.mp h with rfl | h
        · rw [step_put_char hstep]
          exact List.mem_cons_self
        · exact List.mem_cons_of_mem c (mem_of_char_mem_readFrom h)
      · cases h

theorem Spec.cut_unbroken (s : Spec) {t : List Point} (ht : Unbroken t) : Unbroken (s.cut t) := by
  unfold Spec.cut
  split
  · exact ht.take _
  · exact ht

theorem Spec.pad_unbroken {s : Spec} {t u : List Point} (h : s.pad t = .ok u) (ht : Unbroken t) :
    Unbroken u := by
  unfold Spec.pad at h
  split at h
  · cases h
  · cases h
    split
    · exact ht.append (Unbroken.replicate rfl _)
    · exact (Unbroken.replicate rfl _).append ht

theorem Spec.apply_unbroken {s : Spec} {arg t : List Point} (h : s.apply arg = .ok t)
    (harg : Unbroken arg) : Unbroken t := by
  unfold Spec.apply at h
  split at h
  · exact Spec.pad_unbroken h (s.cut_unbroken harg)
  · exact Spec.pad_unbroken h (s.cut_unbroken (Text.quote_unbroken arg))
  · exact Spec.pad_unbroken h (s.cut_unbroken (Text.quoteAscii_unbroken arg))
  · split at h
    · exact Spec.pad_unbroken h harg
    · cases h
  all_goals cases h

theorem fill_unbroken {pieces : List Piece} {stop : Option Stop} {args : List (List Point)}
    {r : List Point} (h : fill pieces stop args = .ok r)
    (hpieces : ∀ d, Piece.char d ∈ pieces → Text.isLineBreak d = false)
    (hargs : ∀ a ∈ args, Unbroken a) : Unbroken r := by
  fun_induction fill pieces stop args generalizing r with
  | case1 =>
      cases h
      exact Unbroken.nil
  | case6 c pieces stop args ih =>
      cases hrest : fill pieces stop args with
      | error e => rw [hrest] at h; cases h
      | ok rest =>
          rw [hrest] at h
          cases h
          exact Unbroken.cons_iff.mpr ⟨hpieces c List.mem_cons_self,
            ih hrest (fun d hd => hpieces d (List.mem_cons_of_mem _ hd)) hargs⟩
  | case8 s pieces stop arg args ih =>
      obtain ⟨t, ht, h⟩ := Except.bind_eq_ok.mp h
      obtain ⟨rest, hrest, h⟩ := Except.bind_eq_ok.mp h
      cases h
      exact (Spec.apply_unbroken ht (hargs arg List.mem_cons_self)).append
        (ih hrest (fun d hd => hpieces d (List.mem_cons_of_mem _ hd))
          fun a ha => hargs a (List.mem_cons_of_mem _ ha))
  | _ => cases h

theorem format_unbroken {pattern r : List Point} {args : List (List Point)}
    (h : format pattern args = .ok r) (hp : Unbroken pattern) (hargs : ∀ a ∈ args, Unbroken a) :
    Unbroken r :=
  fill_unbroken h (fun _ hd => hp _ (mem_of_char_mem_readFrom hd)) hargs

end Pattern

end StubGen
