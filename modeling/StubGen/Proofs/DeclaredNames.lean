/-
# `StubGen.Proofs.DeclaredNames` — the names under which functions and classes are declared

A header declares its functions and its class under names the generator derives, and
other declarations refer to them by the names a description writes.  This file says where
the two part.

* A function with arguments is declared under the key of its last argument, whatever its
  own name: the loop that writes the arguments rebinds the name
  (`function_declared_name`).
* The class is declared under the title case of its name, in the line that names it and
  in the line that declares it, while a base class is referred to by its name as written
  (`supers_classNames`).  For a name of ASCII letters and digits that starts with a
  letter, title case keeps the name exactly when each letter is a capital just when it
  starts the name or follows a digit (`title_lit_eq_self_iff`).

The case of an ASCII letter or digit is read off the case tables once, by evaluation over
the 128 ASCII characters (`AlnumCase.of_isAlphanum`).
-/
import Mathlib
import StubGen.Proofs.Header
import StubGen.Proofs.Text.Lower

namespace StubGen

open Text (Point lit)
open TypeHead

/-! ## Functions

The loop that writes a function's arguments binds the function's name to each argument's
key in turn, and the declaration is written after the loop; so a function with arguments
is declared under the key of its last one. -/

namespace Generator

/-- A function is declared as if it were named after the key of its last argument, and
after its own name only when it has no argument.  Each argument keeps its key when its
type is rendered, so the last typed argument carries the last key. -/
theorem function_declared_name {g : Generator} {depth : Nat} {name values argsNode : Node}
    {args : List (List Point × Node)}
    (hget : values.get "args" (.dict []) = .ok argsNode) (hargs : argsNode.entries = .ok args) :
    g.function depth name values =
      g.function depth (.text ((args.getLast?.map Prod.fst).getD name.display)) values := by
  simp only [function, hget, hargs, bind, Except.bind]
  generalize htyped : List.mapM (m := Except Fault) _ args = r
  rcases r with e | typed
  · rfl
  · have hkeys : typed.map Prod.fst = args.map Prod.fst := by
      refine map_eq_map_of_mapM_ok (fun x y h => ?_) htyped
      simp only [pure, Except.pure] at h
      split at h
      · cases h
      · cases h
        rfl
    have hlast : args.getLast?.map Prod.fst = typed.getLast?.map Prod.fst := by
      rw [← List.getLast?_map, ← hkeys, List.getLast?_map]
    rw [hlast]
    dsimp only
    rcases typed.getLast? with _ | ⟨key, type⟩
    · simp only [Option.map_none, Option.getD_none, Node.display]
    · simp only [Node.display]

/-- A function `f` with one argument `a` of type `int`. -/
def oneArgValues : Node := .dict [(lit "args", .dict [(lit "a", .text (lit "int"))])]

theorem function_declared_name_one_arg :
    ready.function 4 (.text (lit "f")) oneArgValues =
      ready.function 4 (.text (lit "a")) oneArgValues := by
  have hget : oneArgValues.get "args" (.dict []) = .ok (.dict [(lit "a", .text (lit "int"))]) :=
    rfl
  have hargs : Node.entries (.dict [(lit "a", .text (lit "int"))]) =
      .ok [(lit "a", .text (lit "int"))] := rfl
  rw [function_declared_name hget hargs]
  rfl

/-- The function `f` with the argument `a` is declared as `a`. -/
theorem function_one_arg_declared_as_arg :
    ready.function 4 (.text (lit "f")) oneArgValues ≠ .ok (lit "void f( int a );") := by
  have h : ready.function 4 (.text (lit "f")) oneArgValues = .ok (lit "void a( int a );") := by
    cbv
  rw [h, Ne, Except.ok.injEq]
  decide

end Generator

/-! ## The case of ASCII letters and digits

Title case moves along a name and starts a run at each letter that follows no letter.  On
ASCII letters and digits it is read off the case tables once, character by character, and
the name it keeps is then characterised by induction on the characters, one pair of
neighbours at a time (`TitleStep`). -/

theorem toNat_lt_of_isAlphanum {c : Char} (hc : c.isAlphanum = true) : c.toNat < 128 := by
  simp only [Char.isAlphanum, Char.isAlpha, Char.isUpper, Char.isLower, Char.isDigit,
    Bool.or_eq_true, Bool.and_eq_true, decide_eq_true_eq, UInt32.le_iff_toNat_le,
    ge_iff_le] at hc
  have : c.toNat = c.val.toNat := rfl
  have : 'Z'.val.toNat = 90 := rfl
  have : 'z'.val.toNat = 122 := rfl
  have : '9'.val.toNat = 57 := rfl
  omega

/-- What the case tables do with an ASCII letter or digit: it is no blank, it is cased
exactly when it is a letter, title case writes its capital and lower case its small
letter, and it is a digit exactly when it is no letter. -/
structure AlnumCase (c : Char) : Prop where
  not_blank : Text.isBlank (.char c) = false
  isCased_eq : Text.isCased (.char c) = c.isAlpha
  titleOf_eq : Text.titleOf (.char c) = [.char c.toUpper]
  lowerOf_eq : Text.lowerOf (.char c) = [.char c.toLower]
  isDigit_eq : c.isDigit = !c.isAlpha
  toUpper_eq_self : c.toUpper = c ↔ (c.isAlpha → c.isUpper)
  toLower_eq_self : c.toLower = c ↔ (c.isAlpha → c.isUpper = false)

theorem alnumCase_table :
    ∀ n < 128, (Char.ofNat n).isAlphanum = true →
      Text.isBlank (.char (Char.ofNat n)) = false ∧
      Text.isCased (.char (Char.ofNat n)) = (Char.ofNat n).isAlpha ∧
      Text.titleOf (.char (Char.ofNat n)) = [.char (Char.ofNat n).toUpper] ∧
      Text.lowerOf (.char (Char.ofNat n)) = [.char (Char.ofNat n).toLower] ∧
      (Char.ofNat n).isDigit = !(Char.ofNat n).isAlpha ∧
      ((Char.ofNat n).toUpper = Char.ofNat n ↔
        ((Char.ofNat n).isAlpha → (Char.ofNat n).isUpper)) ∧
      ((Char.ofNat n).toLower = Char.ofNat n ↔
        ((Char.ofNat n).isAlpha → (Char.ofNat n).isUpper = false)) := by
  decide +kernel

theorem AlnumCase.of_isAlphanum {c : Char} (hc : c.isAlphanum = true) : AlnumCase c := by
  have h := alnumCase_table c.toNat (toNat_lt_of_isAlphanum hc) (by rwa [Char.ofNat_toNat])
  rw [Char.ofNat_toNat] at h
  obtain ⟨h1, h2, h3, h4, h5, h6, h7⟩ := h
  exact ⟨h1, h2, h3, h4, h5, h6, h7⟩

theorem titleFrom_alnum_cons {c : Char} (hc : c.isAlphanum = true) (cased : Bool)
    (before rest : List Point) :
    Text.titleFrom cased before (.char c :: rest) =
      .char (if cased then c.toLower else c.toUpper) ::
        Text.titleFrom c.isAlpha (.char c :: before) rest := by
  have hcase := AlnumCase.of_isAlphanum hc
  -- a capital sigma is no ASCII letter, so the context of the character plays no part
  have hsigma : Point.char c ≠ .char 'Σ' := by
    rintro ⟨⟩
    cases hc
  rw [Text.titleFrom, hcase.isCased_eq]
  cases cased
  · simp [hcase.titleOf_eq]
  · simp [Text.lowerAt_eq_lowerOf hsigma, hcase.lowerOf_eq]

/-- Two neighbouring characters of a name that title case keeps: a letter is a capital
exactly when a digit stands before it. -/
def TitleStep (a b : Char) : Prop := b.isAlpha = true → b.isUpper = a.isDigit

instance : DecidableRel TitleStep := fun _ _ => inferInstanceAs (Decidable (_ → _))

theorem titleFrom_map_char_eq_self_iff :
    ∀ {cs : List Char}, (∀ c ∈ cs, c.isAlphanum = true) → ∀ (cased : Bool) (before : List Point),
      (Text.titleFrom cased before (cs.map .char) = cs.map .char ↔
        (∀ c ∈ cs.head?, c.isAlpha = true → c.isUpper = !cased) ∧ cs.IsChain TitleStep)
  | [], _, _, _ => by simp [Text.titleFrom]
  | c :: cs, h, cased, before => by
      have hc := h c List.mem_cons_self
      have hcase := AlnumCase.of_isAlphanum hc
      have ih := titleFrom_map_char_eq_self_iff (fun d hd => h d (List.mem_cons_of_mem c hd))
        c.isAlpha (.char c :: before)
      have hfirst : (if cased then c.toLower else c.toUpper) = c ↔
          (c.isAlpha = true → c.isUpper = !cased) := by
        cases cased
        · simpa using hcase.toUpper_eq_self
        · simpa using hcase.toLower_eq_self
      rw [List.map_cons, titleFrom_alnum_cons hc, List.cons.injEq, Point.char.injEq, hfirst, ih,
        List.isChain_cons]
      simp [TitleStep, hcase.isDigit_eq]

/-! ## Class names

A class name is ASCII letters and digits starting with a letter; title case keeps it
exactly when it is title-cased. -/

/-- A class name as descriptions write them: ASCII letters and digits, starting with a
letter. -/
structure ClassName (s : String) : Prop where
  head_isAlpha : s.toList.head?.any Char.isAlpha = true
  isAlphanum : ∀ c ∈ s.toList, c.isAlphanum = true

/-- A name that title case keeps: it starts with a capital, and each later letter is a
capital exactly when a digit stands before it. -/
def TitleCased (s : String) : Prop :=
  s.toList.head?.all Char.isUpper = true ∧ s.toList.IsChain TitleStep

instance : DecidablePred TitleCased := fun _ => inferInstanceAs (Decidable (_ ∧ _))

theorem ClassName.exists_cons {s : String} (hs : ClassName s) :
    ∃ c cs, s.toList = c :: cs ∧ c.isAlpha = true := by
  have hhead := hs.head_isAlpha
  cases h : s.toList with
  | nil =>
      rw [h] at hhead
      cases hhead
  | cons c cs =>
      rw [h] at hhead
      exact ⟨c, cs, rfl, hhead⟩

/-- Title case keeps a class name exactly when the name is title-cased. -/
theorem title_lit_eq_self_iff {s : String} (hs : ClassName s) :
    Text.title (lit s) = lit s ↔ TitleCased s := by
  obtain ⟨c, cs, hcs, hletter⟩ := hs.exists_cons
  rw [Text.title, lit, titleFrom_map_char_eq_self_iff hs.isAlphanum, TitleCased, hcs]
  simp [hletter]

example : TitleCased "Component" := by decide +kernel
example : ¬ TitleCased "BaseComponent" := by decide +kernel
example : TitleCased "Vec3Ab2" := by decide +kernel

theorem ClassName.isWord {s : String} (hs : ClassName s) : Text.IsWord (lit s) := by
  obtain ⟨c, cs, hcs, -⟩ := hs.exists_cons
  refine ⟨by simp [lit, hcs], fun p hp => ?_⟩
  · obtain ⟨d, hd, rfl⟩ := List.mem_map.mp hp
    exact (AlnumCase.of_isAlphanum (hs.isAlphanum d hd)).not_blank

theorem ClassName.hyphen_not_mem {s : String} (hs : ClassName s) : .char '-' ∉ lit s := by
  intro hp
  obtain ⟨d, hd, hdash⟩ := List.mem_map.mp hp
  cases hdash
  cases hs.isAlphanum _ hd

theorem ClassName.unbroken {s : String} (hs : ClassName s) : Text.Unbroken (lit s) := by
  intro c hc
  cases hb : Text.isLineBreak c
  · rfl
  · have hblank := Text.isBlank_of_isLineBreak hb
    rw [hs.isWord.2 c hc] at hblank
    cases hblank

/-! ## Base classes

A class name is a single word with no hyphen, so the type tables leave it as it is
written, and a base class given by its name is referred to by that name. -/

theorem render_word {depth : Nat} {w : List Point} (hw : Text.IsWord w) (hh : .char '-' ∉ w)
    (hd : CallDepth.fits (depth + 1) = true) : Tables.standard.render depth w = .ok w := by
  have hsplit : Text.splitFirst ofSep w = none := by
    refine Text.splitFirst_eq_none_iff.mpr fun hin => ?_
    have hblank := hw.2 _ (hin.subset (show Point.char ' ' ∈ ofSep by decide))
    cases hblank
  have hpieces : Text.splitOn (.char '-') w = [w] := by
    rw [Text.splitOn_eq_listSplitOn]
    exact List.splitOn_eq_singleton hh
  rw [Tables.render_of_splitFirst_none _ hd hsplit, Text.words_of_word hw.1 hw.2]
  simp [baseOf, modifierOf, unmodify, hpieces, Tables.standard_suffix_none]

theorem typeName_className {depth : Nat} {s : String} (hs : ClassName s)
    (hd : CallDepth.fits (depth + 2) = true) :
    Generator.ready.typeName (depth + 1) (.text (lit s)) = .ok (lit s) := by
  rw [Generator.typeName_ready_text hd]
  exact render_word hs.isWord hs.hyphen_not_mem hd

/-- Base classes given by their class names are referred to by those names as written. -/
theorem supers_classNames {depth : Nat} {names : List String} (hne : names ≠ [])
    (hn : ∀ s ∈ names, ClassName s) (hd : CallDepth.fits (depth + 2) = true) :
    Generator.ready.supers depth (.list (names.map fun s => .text (lit s))) =
      .ok (lit " :" ++ [Point.char ','].intercalate (names.map fun s => lit " public " ++ lit s)) := by
  have hbases : (names.map fun s => Node.text (lit s)).mapM
      (fun v => do pure (lit " public " ++ (← Generator.ready.typeName (depth + 1) v))) =
        .ok (names.map fun s => lit " public " ++ lit s) := by
    rw [List.mapM_map, mapM_congr_of_mem (g := fun s => pure (lit " public " ++ lit s))
      fun s hs => by simp only [Function.comp_apply, typeName_className (hn s hs) hd]; rfl,
      List.mapM_pure]
    rfl
  have hlen : names.length ≠ 0 := by simpa using hne
  simp only [bind, Except.bind] at hbases
  rw [Generator.supers_eq_joined]
  simp only [Node.size, Node.members, bind, Except.bind, List.length_map,
    hlen, if_false, hbases]
  rfl

/-! ## The class lines of a header

The lines above a header's sections take the class name only through title case, and
the template parameters and base classes only through their joins; when these break no
line the header is well formed, and its tidy text holds the two class lines. -/

namespace Generator

variable {depth : Nat} {spec : Node} {hd : Header}

theorem header_wellFormed_of_className {s : String} (hs : ClassName s)
    (hname : spec.field "name" = .ok (.text (lit s)))
    (htemplate : ∀ v, spec.get "template" (.list []) = .ok v → v.Unbroken)
    (hsupers : ∀ v, spec.get "supers" (.list []) = .ok v → v.Unbroken)
    (h : ready.header depth spec = .ok hd) : hd.WellFormed := by
  obtain ⟨nameNode, name, -, -, hname', hupper, ⟨sv, hsv, hsups⟩, ⟨tv, htv, hparams⟩, -, -,
    hfile, hguard, hclass, htemplate', -⟩ := header_ok h
  rw [hname] at hname'
  cases hname'
  cases hupper
  have hn := hs.unbroken
  have hnameU : Node.Unbroken (.text (lit s)) := .text hn
  exact ⟨hfile ▸ hnameU.display.append (by decide), hguard ▸ hn.upper, hclass ▸ hn.title,
    templateParams_unbroken (htemplate tv htv) hparams, supers_unbroken (hsupers sv hsv) hsups,
    htemplate'⟩

/-- The class of a description named by a class name `s` is declared under the title case
of `s`, in the line that names it and in the line that declares it, while a description
that lists `s` among its base classes refers to `s` as written.  The two agree exactly
when `s` is title-cased. -/
theorem class_declared_under_title {s : String} (hs : ClassName s)
    (htemplate : ∀ v, spec.get "template" (.list []) = .ok v → v.Unbroken)
    (hsupers : ∀ v, spec.get "supers" (.list []) = .ok v → v.Unbroken)
    (hname : spec.field "name" = .ok (.text (lit s))) (h : ready.header depth spec = .ok hd) :
    Text.tidyLine (lit "// Definition of " ++ Text.title (lit s) ++ hd.params ++ [.char '.']) ∈
        Text.lines (Text.tidy hd.text) ∧
      Text.tidyLine (lit "class " ++ Text.title (lit s) ++ .char ' ' :: hd.supers) ∈
        Text.lines (Text.tidy hd.text) ∧
      (∀ d, CallDepth.fits (d + 2) = true →
        ready.supers d (.list [.text (lit s)]) = .ok (lit " : public " ++ lit s)) ∧
      (Text.title (lit s) = lit s ↔ TitleCased s) := by
  have hw := header_wellFormed_of_className hs hname htemplate hsupers h
  obtain ⟨nameNode, name, -, -, hname', hupper, -, -, -, -, -, -, hclass, -, -⟩ := header_ok h
  rw [hname] at hname'
  cases hname'
  cases hupper
  -- both class lines stand above the sections, which may hold anything
  rw [← hclass]
  refine ⟨Header.tidyLine_mem_lines_tidy hw (Header.definition_mem_topLines hd) (by simp [lit]),
    Header.tidyLine_mem_lines_tidy hw (Header.class_mem_topLines hd) (by simp [lit]),
    fun d hfits => ?_, hclass ▸ title_lit_eq_self_iff hs⟩
  rw [show [Node.text (lit s)] = [s].map fun s => Node.text (lit s) from rfl,
    supers_classNames (List.cons_ne_nil s []) (by simpa using hs) hfits]
  simp [lit]

/-- A class `AB` with no functions and no members. -/
def abSpec : Node :=
  .dict [(lit "name", .text (lit "AB")), (lit "functions", .dict []), (lit "members", .dict [])]

/-- The header of `abSpec`: the class is `Ab`, and every section is empty. -/
def abHeader : Header where
  fileName := lit "AB.cpp"
  guard := lit "AB"
  className := lit "Ab"
  params := []
  template := []
  supers := []
  sections := [[], [], [], [], [], []]

theorem class_declared_under_title_ab :
    ready.header 4 abSpec = .ok abHeader ∧
      Text.tidyLine (lit "class " ++ Text.title (lit "AB") ++ .char ' ' :: abHeader.supers) ∈
        Text.lines (Text.tidy abHeader.text) ∧
      (Text.title (lit "AB") = lit "AB" ↔ TitleCased "AB") := by
  have hs : ClassName "AB" := ⟨by decide, List.all_eq_true.mp (by decide)⟩
  have htemplate : ∀ v, abSpec.get "template" (.list []) = .ok v → v.Unbroken := by
    intro v hv
    cases hv
    decide
  have hsupers : ∀ v, abSpec.get "supers" (.list []) = .ok v → v.Unbroken := by
    intro v hv
    cases hv
    decide
  have hheader : ready.header 4 abSpec = .ok abHeader := by cbv
  obtain ⟨-, hclass, -, hiff⟩ := class_declared_under_title hs htemplate hsupers rfl hheader
  exact ⟨hheader, hclass, hiff⟩

/-- The class `AB` is declared as `Ab`: no line of its tidy header is `class AB`. -/
theorem class_of_capitals_declared_retitled :
    ready.header 4 abSpec = .ok abHeader ∧
      lit "class AB" ∉ Text.lines (Text.tidy abHeader.text) := by
  refine ⟨by cbv, ?_⟩
  decide +kernel

end Generator

end StubGen
