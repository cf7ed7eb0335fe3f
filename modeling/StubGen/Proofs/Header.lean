/-
# `StubGen.Proofs.Header` — where the declarations of a class stand in its header

A header is written as lines joined by line feeds: the banner, the include guard and
the class line, then the access sections, functions before members and each group
public, protected, private, then the end of the class and of the guard.  Each section
that declares something is its comment, its label and one line per declaration after
four spaces, and ends with a line feed, so that the join leaves an empty line after it;
a section that declares nothing leaves only the empty line.

Tidying keeps one empty line of each run between kept lines.  So, for a description none
of whose texts breaks a line, the tidy header holds the sections that declare something
in order, each its comment, its label and its declarations, with exactly one empty line
between two of them, and an empty line before the end of the class.  The lines that
start with four spaces are exactly the declarations, in order; each is the declaration
that the generator makes on its own for that entry, its words joined by single blanks.
Keys of the two groups other than the three access levels are never read.
-/
import Mathlib
import StubGen.Header
import StubGen.Proofs.Declaration
import StubGen.Proofs.Text.Tidy

namespace StubGen

open Text (Point lit)

theorem intercalate_append_singleton {α : Type} (sep z : List α) :
    ∀ xs : List (List α), sep.intercalate (xs ++ [z]) = xs.flatMap (· ++ sep) ++ z
  | [] => by simp
  | [x] => by simp
  | x :: y :: xs => by
      rw [List.cons_append, List.intercalate_cons_of_ne_nil (by simp),
        intercalate_append_singleton sep z (y :: xs)]
      simp

/-! ## The sections of a class

A class is its functions, then its members, each group at the three access levels in
turn; a header that is made read its name, base classes and template parameters one call
deeper and its sections three calls deeper. -/

namespace Generator

variable {g : Generator} {depth : Nat}

theorem group_eq (spec : Node) (key : String) (functions : Bool) :
    g.group depth spec key functions =
      List.map (fun s => s.rawLines.flatMap (· ++ [.char '\n'])) <$>
        accessLevels.mapM (g.sectionOf (depth + 1) spec key functions) := by
  unfold group
  rw [← mapM_map_comp]
  congr 1
  funext level
  simp only [accessSection_eq, sectionOf, map_bind, bind_pure_comp, Functor.map_map]

/-- The access sections of a class description, functions before members and each group
public, protected, private, with each entry declared on its own when `depth` calls are
open. -/
def accessSections (g : Generator) (depth : Nat) (spec : Node) :
    Except Fault (List AccessSection) := do
  let fs ← accessLevels.mapM (g.sectionOf depth spec "functions" true)
  let ms ← accessLevels.mapM (g.sectionOf depth spec "members" false)
  pure (fs ++ ms)

theorem header_ok {spec : Node} {hd : Header} (h : g.header depth spec = .ok hd) :
    ∃ nameNode name fs ms, spec.field "name" = .ok nameNode ∧
      nameNode.asText "upper" = .ok name ∧
      (∃ v, spec.get "supers" (.list []) = .ok v ∧ g.supers (depth + 1) v = .ok hd.supers) ∧
      (∃ v, spec.get "template" (.list []) = .ok v ∧
        g.templateParams (depth + 1) v = .ok hd.params) ∧
      accessLevels.mapM (g.sectionOf (depth + 3) spec "functions" true) = .ok fs ∧
      accessLevels.mapM (g.sectionOf (depth + 3) spec "members" false) = .ok ms ∧
      hd.fileName = nameNode.display ++ lit ".cpp" ∧ hd.guard = Text.upper name ∧
      hd.className = Text.title name ∧ hd.template = template hd.params ∧
      hd.sections = (fs ++ ms).map fun s => s.rawLines.flatMap (· ++ [.char '\n']) := by
  simp only [header, Except.bind_eq_ok, group_eq, Except.map_eq_ok] at h
  obtain ⟨nameNode, hname, name, hupper, sv, hsv, sups, hsups, tv, htv, params, hparams, _,
    ⟨fs, hfs, rfl⟩, _, ⟨ms, hms, rfl⟩, hhd⟩ := h
  cases hhd
  exact ⟨nameNode, name, fs, ms, hname, hupper, ⟨sv, hsv, hsups⟩, ⟨tv, htv, hparams⟩, hfs, hms,
    rfl, rfl, rfl, rfl, by rw [List.map_append]⟩

end Generator

/-! ## Sections, tidied

Tidying writes a declaration after four spaces with its words joined by single blanks.
The comment and the label of a section are already tidy, so a section that declares
something is written as its lines, tidied one by one. -/

/-- The line a declaration stands on in a tidy header: four spaces, then its words joined
by single blanks. -/
def declLine (d : List Point) : List Point := lit "    " ++ [.char ' '].intercalate (Text.words d)

namespace AccessSection

open Text (Unbroken IsWord tidyLine)

/-- The lines of a section in a tidy header: its comment, its label and the line of each
declaration. -/
def lines (s : AccessSection) : List (List Point) := s.comment :: s.label :: s.decls.map declLine

/-- A section as the generator makes it from a description that breaks no line: at one of
the three access levels, with flush declarations. -/
structure Flush (s : AccessSection) : Prop where
  level_mem : s.level ∈ Generator.accessLevels
  decls : ∀ d ∈ s.decls, Text.Flush d

theorem comment_label {s : AccessSection} (hl : s.level ∈ Generator.accessLevels) :
    (Unbroken s.comment ∧ tidyLine s.comment = s.comment) ∧
      Unbroken s.label ∧ tidyLine s.label = s.label := by
  obtain ⟨level, functions, decls⟩ := s
  have hcomment : comment ⟨level, functions, decls⟩ = [.char ' '].intercalate
      [lit "//", Text.title (lit level),
        (if functions then lit "functions" else lit "members") ++ lit "."] := by
    simp [comment, kind, lit]
  have hlabel : label ⟨level, functions, decls⟩ = [.char ' '].intercalate [lit level ++ lit ":"] :=
    by rw [List.intercalate_singleton]; rfl
  rw [hcomment, hlabel]
  -- the three levels and the two groups give six closed lines
  simp only [Generator.accessLevels, List.mem_cons, List.not_mem_nil, or_false] at hl
  rcases hl with rfl | rfl | rfl <;> cases functions <;>
    exact ⟨⟨by decide, Text.tidyLine_of_isTidyLine
      (Text.isTidyLine_intercalate (by simp) (by decide))⟩, by decide,
      Text.tidyLine_of_isTidyLine (Text.isTidyLine_intercalate (by simp) (by decide))⟩

theorem rawLines_unbroken {s : AccessSection} (hs : s.Flush) : ∀ l ∈ s.rawLines, Unbroken l := by
  obtain ⟨⟨hcomment, -⟩, hlabel, -⟩ := comment_label hs.level_mem
  intro l hl
  unfold rawLines at hl
  split at hl
  · cases hl
  · simp only [List.mem_cons, List.mem_map] at hl
    rcases hl with rfl | rfl | ⟨d, hd, rfl⟩
    · exact hcomment
    · exact hlabel
    · exact (show Unbroken (lit "    ") by decide).append (hs.decls d hd).unbroken

theorem rawLines_ne_nil {s : AccessSection} : ∀ l ∈ s.rawLines, l ≠ [] := by
  intro l hl
  unfold rawLines at hl
  split at hl
  · cases hl
  · simp only [List.mem_cons, List.mem_map] at hl
    rcases hl with rfl | rfl | ⟨d, hd, rfl⟩ <;> simp [comment, label, lit]

theorem map_tidyLine_rawLines {s : AccessSection} (hs : s.Flush) (hne : s.decls ≠ []) :
    s.rawLines.map tidyLine = s.lines := by
  obtain ⟨⟨-, hcomment⟩, -, hlabel⟩ := comment_label hs.level_mem
  -- a declaration line keeps its four spaces, and its declaration starts with no blank
  have hdecl : ∀ d ∈ s.decls, tidyLine (lit "    " ++ d) = declLine d := fun d hd =>
    Text.tidyLine_replicate_append 4 (hs.decls d hd).indent_eq_zero
  simp only [rawLines, hne, if_false, List.map_cons, List.map_map, hcomment, hlabel, lines]
  congr 2
  exact List.map_congr_left fun d hd => hdecl d hd

end AccessSection

/-! ## The lines of a header

Above its sections a header has fixed lines and the two class lines; when no part of it
breaks a line these end with a kept line, and what follows is tidied on its own.  So the
lines above the sections survive tidying whatever the sections hold. -/

namespace Header

/-- The lines of a header above its sections: the banner, the include guard, the class
line and its opening brace. -/
def topLines (h : Header) : List (List Point) :=
  [rule, lit "// " ++ h.fileName ++ lit " Authored by Nathan Ross Powell.", rule,
    lit "#ifndef __HEADER_" ++ h.guard ++ lit "__", lit "#define __HEADER_" ++ h.guard ++ lit "__",
    [], [], [], [], rule, lit "// Definition of " ++ h.className ++ h.params ++ [.char '.']] ++
  (if h.params.isEmpty then [] else [lit "template" ++ h.params]) ++
  [lit "class " ++ h.className ++ .char ' ' :: h.supers, [.char '\x7b']]

theorem definition_mem_topLines (h : Header) :
    lit "// Definition of " ++ h.className ++ h.params ++ [.char '.'] ∈ h.topLines := by
  simp [topLines]

theorem class_mem_topLines (h : Header) :
    lit "class " ++ h.className ++ .char ' ' :: h.supers ∈ h.topLines := by
  simp [topLines]

/-- The last line of a header: the end of its include guard. -/
def endif (h : Header) : List Point := lit "#endif __HEADER_" ++ h.guard ++ lit "__"

/-- A header as the generator makes it from a description that breaks no line: no part of
it breaks a line, and its template line is made from its parameters. -/
structure WellFormed (h : Header) : Prop where
  fileName : Text.Unbroken h.fileName
  guard : Text.Unbroken h.guard
  className : Text.Unbroken h.className
  params : Text.Unbroken h.params
  supers : Text.Unbroken h.supers
  template_eq : h.template = Generator.template h.params

theorem text_eq_top {h : Header} (ht : h.template = Generator.template h.params) :
    h.text = h.topLines.flatMap (· ++ [.char '\n']) ++
      ((h.sections ++ [lit "\x7d;", []]).flatMap (· ++ [Point.char '\n']) ++ h.endif) := by
  rw [text, List.append_assoc,
    show [lit "\x7d;", [], lit "#endif __HEADER_" ++ h.guard ++ lit "__"] =
      [lit "\x7d;", []] ++ [h.endif] from rfl, ← List.append_assoc, ← List.append_assoc,
    intercalate_append_singleton, ht]
  simp only [topLines, Generator.template, List.flatMap_append]
  cases hp : h.params.isEmpty <;> simp

theorem text_eq {h : Header} (hw : h.WellFormed) {ss : List AccessSection}
    (hs : h.sections = ss.map fun s => s.rawLines.flatMap (· ++ [.char '\n'])) :
    h.text = (h.topLines ++ ss.flatMap (fun s : AccessSection => s.rawLines ++ [[]]) ++
      [lit "\x7d;", []]).flatMap (· ++ [Point.char '\n']) ++ h.endif := by
  rw [text_eq_top hw.template_eq, hs]
  simp [List.flatMap_map, List.flatMap_assoc]

variable {h : Header}

theorem topLines_head (h : Header) :
    ∀ l ∈ h.topLines, ∀ c ∈ l.head?, Text.isBlank c = false := by
  -- every line opens with a fixed character: a slash, a hash, a letter or a brace
  simp only [topLines, rule, List.forall_mem_append, List.forall_mem_cons]
  split <;> simp [lit] <;> decide

theorem topLines_unbroken (hw : h.WellFormed) : ∀ l ∈ h.topLines, Text.Unbroken l := by
  simp only [topLines, rule, List.forall_mem_append, List.forall_mem_cons]
  split <;> simp [hw.fileName, hw.guard, hw.className, hw.params, hw.supers] <;> decide

theorem endif_unbroken (hw : h.WellFormed) : Text.Unbroken h.endif :=
  ((show Text.Unbroken (lit "#endif __HEADER_") by decide).append hw.guard).append (by decide)

theorem lines_text (hw : h.WellFormed) {ss : List AccessSection} (hss : ∀ s ∈ ss, s.Flush)
    (hs : h.sections = ss.map fun s => s.rawLines.flatMap (· ++ [.char '\n'])) :
    Text.lines h.text = h.topLines ++ ss.flatMap (fun s : AccessSection => s.rawLines ++ [[]]) ++
      [lit "\x7d;", [], h.endif] := by
  have hunbroken : ∀ l ∈ h.topLines ++ ss.flatMap (fun s : AccessSection => s.rawLines ++ [[]]) ++
      [lit "\x7d;", []], Text.Unbroken l := by
    intro l hl
    simp only [List.mem_append, List.mem_flatMap, List.mem_cons, List.not_mem_nil,
      or_false] at hl
    rcases hl with (hl | ⟨s, hs, hl | rfl⟩) | rfl | rfl
    · exact topLines_unbroken hw l hl
    · exact AccessSection.rawLines_unbroken (hss s hs) l hl
    · exact Text.Unbroken.nil
    · decide
    · exact Text.Unbroken.nil
  rw [text_eq hw hs, Text.lines_flatMap_append hunbroken,
    Text.lines_of_no_break (by simp [endif, lit]) (endif_unbroken hw)]
  simp

theorem tidyForm_end (h : Header) :
    Text.tidyForm true [lit "\x7d;", [], h.endif] =
      [[], lit "\x7d;", [], Text.tidyLine h.endif] := by
  have hclose : Text.tidyLine (lit "\x7d;") = lit "\x7d;" := Text.tidyLine_of_isTidyLine
    (by simpa using @Text.isTidyLine_intercalate [lit "\x7d;"] (by simp) (by decide))
  have hend : h.endif ≠ [] := by simp [endif, lit]
  simp [Text.tidyForm, hclose, hend, show lit "\x7d;" ≠ [] by decide]

theorem tidyForm_topLines_append (h : Header) (more : List (List Point)) :
    Text.tidyForm false (h.topLines ++ more) =
      Text.tidyForm false h.topLines ++ Text.tidyForm false more := by
  obtain ⟨top, htop⟩ : ∃ top, h.topLines = top ++ [[.char '\x7b']] :=
    List.getLast?_eq_some_iff.mp (by unfold topLines; split <;> rfl)
  rw [htop, List.append_assoc, List.singleton_append,
    Text.tidyForm_append_of_kept (List.cons_ne_nil _ _)]

theorem tidyLine_mem_lines_tidy (hw : h.WellFormed) {l : List Point} (hl : l ∈ h.topLines)
    (hne : l ≠ []) : Text.tidyLine l ∈ Text.lines (Text.tidy h.text) := by
  rw [Text.lines_tidy, text_eq_top hw.template_eq,
    Text.lines_flatMap_append (topLines_unbroken hw), tidyForm_topLines_append]
  exact List.mem_append_left _ (Text.tidyLine_mem_tidyForm hne hl)

end Header

/-! ## The sections of a header, tidied

Between the top and the end, tidying keeps the sections that declare something, with
one empty line between two of them, perhaps one before the first, and a gap after them:
an empty section adds only blank lines, which tidying merges. -/

theorem intercalate_cons_eq_flatMap {α : Type} (sep b : List α) :
    ∀ bs : List (List α), sep.intercalate (b :: bs) = b ++ bs.flatMap (sep ++ ·)
  | [] => by simp
  | c :: bs => by
      rw [List.intercalate_cons_cons, intercalate_cons_eq_flatMap sep c bs]
      simp

namespace AccessSection

theorem tidyForm_gap (more : List (List Point)) :
    ∀ ss : List AccessSection, (∀ s ∈ ss, s.Flush) →
      Text.tidyForm true (ss.flatMap (fun s => s.rawLines ++ [[]]) ++ more) =
        (ss.filter (!·.decls.isEmpty)).flatMap (fun s => [] :: s.lines) ++
          Text.tidyForm true more
  | [], _ => rfl
  | s :: ss, hss => by
      have ih := tidyForm_gap more ss fun x hx => hss x (List.mem_cons_of_mem s hx)
      rw [List.flatMap_cons, List.append_assoc, List.append_assoc]
      by_cases hd : s.decls = []
      · rw [show s.rawLines = [] by simp [rawLines, hd], List.nil_append, List.singleton_append,
          Text.tidyForm_nil_cons, ih]
        simp [hd]
      · have hraw : s.rawLines ≠ [] := by simp [rawLines, hd]
        rw [Text.tidyForm_kept_append hraw rawLines_ne_nil, map_tidyLine_rawLines
          (hss s List.mem_cons_self) hd, List.singleton_append, Text.tidyForm_nil_cons, ih]
        simp [hd]

theorem tidyForm_layout (more : List (List Point)) {ss : List AccessSection}
    (hss : ∀ s ∈ ss, s.Flush) (hne : ss ≠ []) :
    ∃ lead : List (List Point), (lead = [] ∨ lead = [[]]) ∧
      Text.tidyForm false (ss.flatMap (fun s => s.rawLines ++ [[]]) ++ more) =
        lead ++ [[]].intercalate ((ss.filter (!·.decls.isEmpty)).map lines) ++
          Text.tidyForm true more := by
  obtain ⟨s, rest, rfl⟩ := List.exists_cons_of_ne_nil hne
  have hrest := tidyForm_gap more rest fun x hx => hss x (List.mem_cons_of_mem s hx)
  rw [List.flatMap_cons, List.append_assoc, List.append_assoc]
  by_cases hd : s.decls = []
  · -- the first section declares nothing: its empty line is a gap before the others
    rw [show s.rawLines = [] by simp [rawLines, hd], List.nil_append, List.singleton_append,
      Text.tidyForm_nil_cons, hrest]
    cases hf : rest.filter (!·.decls.isEmpty) with
    | nil => exact ⟨[], .inl rfl, by simp [hd, hf]⟩
    | cons f fs =>
        refine ⟨[[]], .inr rfl, ?_⟩
        simp [hd, hf, intercalate_cons_eq_flatMap, List.flatMap_map]
  · -- the first section declares something: it stands right after the top
    have hraw : s.rawLines ≠ [] := by simp [rawLines, hd]
    refine ⟨[], .inl rfl, ?_⟩
    rw [Text.tidyForm_kept_append hraw rawLines_ne_nil, map_tidyLine_rawLines
      (hss s List.mem_cons_self) hd, List.singleton_append, Text.tidyForm_nil_cons, hrest]
    simp [hd, intercalate_cons_eq_flatMap, List.flatMap_map]

end AccessSection

namespace Generator

variable {depth : Nat} {spec : Node} {hd : Header}

theorem header_wellFormed (hspec : spec.Unbroken) (h : ready.header depth spec = .ok hd) :
    hd.WellFormed := by
  obtain ⟨nameNode, name, -, -, hname, hupper, ⟨sv, hsv, hsups⟩, ⟨tv, htv, hparams⟩, -, -,
    hfile, hguard, hclass, htemplate, -⟩ := header_ok h
  have hnameU := hspec.field hname
  have hn := hnameU.asText hupper
  exact ⟨hfile ▸ hnameU.display.append (by decide), hguard ▸ hn.upper, hclass ▸ hn.title,
    templateParams_unbroken (hspec.get (.list (by simp)) htv) hparams,
    supers_unbroken (hspec.get (.list (by simp)) hsv) hsups, htemplate⟩

theorem sections_flush (hspec : spec.Unbroken) {key : String} {functions : Bool}
    {ss : List AccessSection}
    (h : accessLevels.mapM (ready.sectionOf depth spec key functions) = .ok ss) :
    ∀ s ∈ ss, s.Flush := by
  intro s hs
  obtain ⟨level, hlevel, hsec⟩ := mem_of_mapM_ok h s hs
  exact ⟨(sectionOf_level hsec).1 ▸ hlevel, sectionOf_flush hspec hsec⟩

theorem map_sections {g : Generator} {key : String} {functions : Bool} {ss : List AccessSection}
    (h : accessLevels.mapM (g.sectionOf depth spec key functions) = .ok ss) :
    ss.map (fun s => (s.functions, s.level)) = accessLevels.map (functions, ·) := by
  have hlevels := map_of_mapM_ok (g := AccessSection.level) (fun _ _ hy => (sectionOf_level hy).1) h
  rw [← hlevels, List.map_map]
  refine List.map_congr_left fun s hs => ?_
  obtain ⟨level, -, hsec⟩ := mem_of_mapM_ok h s hs
  simp [(sectionOf_level hsec).2]

theorem lines_tidy_header (hspec : spec.Unbroken) (h : ready.header depth spec = .ok hd) :
    ∃ fs ms, accessLevels.mapM (ready.sectionOf (depth + 3) spec "functions" true) = .ok fs ∧
      accessLevels.mapM (ready.sectionOf (depth + 3) spec "members" false) = .ok ms ∧
      ∃ lead : List (List Point), (lead = [] ∨ lead = [[]]) ∧
        Text.lines (Text.tidy hd.text) = Text.tidyForm false hd.topLines ++ lead ++
          [[]].intercalate (((fs ++ ms).filter (!·.decls.isEmpty)).map AccessSection.lines) ++
          [[], lit "\x7d;", [], Text.tidyLine hd.endif] := by
  obtain ⟨-, -, fs, ms, -, -, -, -, hfs, hms, -, -, -, -, hsections⟩ := header_ok h
  have hw := header_wellFormed hspec h
  have hss : ∀ s ∈ fs ++ ms, s.Flush := fun s hs => (List.mem_append.mp hs).elim
    (sections_flush hspec hfs s) (sections_flush hspec hms s)
  have hne : fs ++ ms ≠ [] := by
    have hlen := congrArg List.length (map_sections hfs)
    simp only [List.length_map, accessLevels, List.length_cons, List.length_nil] at hlen
    intro hnil
    rw [(List.append_eq_nil_iff.mp hnil).1] at hlen
    cases hlen
  obtain ⟨lead, hlead, hlayout⟩ := AccessSection.tidyForm_layout [lit "\x7d;", [], hd.endif] hss hne
  refine ⟨fs, ms, hfs, hms, lead, hlead, ?_⟩
  rw [Text.lines_tidy, Header.lines_text hw hss hsections, List.append_assoc,
    Header.tidyForm_topLines_append, hlayout, Header.tidyForm_end]
  simp

end Generator

/-! ## The lines that start with four spaces

Only declarations start with four spaces: the top lines, the comments, the labels and the
end of a header start with no blank, and tidying keeps a line that starts with no blank
so.  So the declarations of a tidy header are read off by that prefix. -/

theorem isPrefixOf_spaces_of_head {l : List Point} (hl : ∀ c ∈ l.head?, Text.isBlank c = false) :
    (lit "    ").isPrefixOf l = false := by
  cases l with
  | nil => rfl
  | cons c r =>
      have hc : (Point.char ' ' == c) = false := by
        cases h : (Point.char ' ' == c)
        · rfl
        · have hblank := hl c rfl
          rw [← beq_iff_eq.mp h] at hblank
          cases hblank
      show (Point.char ' ' == c && _) = false
      rw [hc, Bool.false_and]

theorem isPrefixOf_spaces_declLine (d : List Point) : (lit "    ").isPrefixOf (declLine d) = true :=
  List.isPrefixOf_iff_prefix.mpr (List.prefix_append _ _)

theorem tidyLine_head {l : List Point} (hl : ∀ c ∈ l.head?, Text.isBlank c = false) :
    ∀ c ∈ (Text.tidyLine l).head?, Text.isBlank c = false := by
  cases l with
  | nil => simp [Text.tidyLine, Text.indent]
  | cons c r =>
      obtain ⟨t, ht⟩ := Text.tidyLine_cons_of_not_isBlank (hl c rfl) r
      rw [ht]
      exact hl

theorem filter_intercalate_gap {p : List Point → Bool} (hp : p [] = false) :
    ∀ bs : List (List (List Point)), ([[]].intercalate bs).filter p = bs.flatMap (·.filter p)
  | [] => rfl
  | b :: bs => by
      rw [intercalate_cons_eq_flatMap]
      simp [List.filter_flatMap, hp]

theorem AccessSection.filter_lines {s : AccessSection} (hl : s.level ∈ Generator.accessLevels) :
    s.lines.filter (lit "    ").isPrefixOf = s.decls.map declLine := by
  have hcomment : (lit "    ").isPrefixOf s.comment = false :=
    isPrefixOf_spaces_of_head (by simp [comment, lit]; decide)
  have hlabel : (lit "    ").isPrefixOf s.label = false := by
    rw [label]
    simp only [Generator.accessLevels, List.mem_cons, List.not_mem_nil, or_false] at hl
    rcases hl with hl | hl | hl <;> rw [hl] <;> decide
  have hdecls : s.decls.filter (fun _ => true) = s.decls := List.filter_eq_self.mpr fun _ _ => rfl
  simp [lines, hcomment, hlabel, List.filter_map, Function.comp_def, isPrefixOf_spaces_declLine,
    hdecls]

theorem AccessSection.flatMap_filter_lines :
    ∀ ss : List AccessSection, (∀ s ∈ ss, s.level ∈ Generator.accessLevels) →
      (ss.filter (!·.decls.isEmpty)).flatMap (fun s => s.lines.filter (lit "    ").isPrefixOf) =
        (ss.flatMap AccessSection.decls).map declLine
  | [], _ => rfl
  | s :: ss, hss => by
      have ih := flatMap_filter_lines ss fun x hx => hss x (List.mem_cons_of_mem s hx)
      by_cases hd : s.decls = []
      · simp [hd, ih]
      · simp [hd, ih, filter_lines (hss s List.mem_cons_self)]

theorem Header.filter_tidyForm_topLines (h : Header) :
    (Text.tidyForm false h.topLines).filter (lit "    ").isPrefixOf = [] := by
  rw [List.filter_eq_nil_iff]
  intro m hm
  rcases Text.mem_tidyForm hm with rfl | ⟨l, hl, rfl⟩
  · decide
  · rw [isPrefixOf_spaces_of_head (tidyLine_head (h.topLines_head l hl))]
    decide

/-! ## Keys the header does not read

The header asks each group only for its three access levels.  Cutting a group down to
those keys therefore changes nothing: a frame property of the header over the keys it
does not read. -/

namespace Node

open Generator (accessLevels)

/-- A dictionary cut down to its entries under the given keys; any other value as it is. -/
def restrict (keys : List String) : Node → Node
  | .dict es => .dict (es.filter fun e => keys.any fun k => lit k == e.1)
  | v => v

/-- The value under a key of a class description, cut down to the access levels when the
key names one of the two groups. -/
def cutGroup (key : List Point) (v : Node) : Node :=
  if key = lit "functions" ∨ key = lit "members" then v.restrict accessLevels else v

/-- A class description with its groups `functions` and `members` cut down to the three
access levels. -/
def accessOnly : Node → Node
  | .dict es => .dict (es.map fun e => (e.1, cutGroup e.1 e.2))
  | v => v

theorem lookup_filter_any {keys : List String} {key : String} (hk : key ∈ keys)
    (es : List (List Point × Node)) :
    (es.filter fun e => keys.any fun k => lit k == e.1).lookup (lit key) = es.lookup (lit key) := by
  induction es with
  | nil => rfl
  | cons e es ih =>
      obtain ⟨k, v⟩ := e
      by_cases he : lit key = k
      · subst he
        have hkeep : (keys.any fun k' => lit k' == lit key) = true :=
          List.any_eq_true.mpr ⟨key, hk, by simp⟩
        simp [hkeep]
      · have hne : (lit key == k) = false := by simpa using he
        by_cases hkeep : (keys.any fun k' => lit k' == k) = true
        · simp [hkeep, List.lookup_cons, hne, ih]
        · simp [hkeep, List.lookup_cons, hne, ih]

theorem lookup_map_cutGroup (key : List Point) (es : List (List Point × Node)) :
    (es.map fun e => (e.1, cutGroup e.1 e.2)).lookup key = (es.lookup key).map (cutGroup key) := by
  induction es with
  | nil => rfl
  | cons e es ih =>
      obtain ⟨k, v⟩ := e
      by_cases he : key = k
      · subst he
        simp
      · have hne : (key == k) = false := by simpa using he
        simp [List.lookup_cons, hne, ih]

theorem get_restrict {keys : List String} {level : String} (hl : level ∈ keys) (v d : Node) :
    (v.restrict keys).get level d = v.get level d := by
  cases v with
  | dict es => simp [restrict, get, lookup_filter_any hl]
  | _ => rfl

theorem field_accessOnly (spec : Node) (key : String) :
    spec.accessOnly.field key = cutGroup (lit key) <$> spec.field key := by
  cases spec with
  | dict es =>
      simp only [accessOnly, field, lookup_map_cutGroup]
      cases es.lookup (lit key) <;> rfl
  | _ => rfl

theorem get_accessOnly {key : String} (hf : lit key ≠ lit "functions")
    (hm : lit key ≠ lit "members") (spec d : Node) :
    spec.accessOnly.get key d = spec.get key d := by
  cases spec with
  | dict es =>
      simp only [accessOnly, get, lookup_map_cutGroup]
      cases es.lookup (lit key) <;> simp [cutGroup, hf, hm]
  | _ => rfl

end Node

namespace Generator

variable {g : Generator} {depth : Nat}

theorem sectionOf_accessOnly {spec : Node} {key level : String} {functions : Bool}
    (hk : key = "functions" ∨ key = "members") (hl : level ∈ accessLevels) :
    g.sectionOf depth spec.accessOnly key functions level =
      g.sectionOf depth spec key functions level := by
  have hcut : ∀ v, Node.cutGroup (lit key) v = v.restrict accessLevels := fun v => by
    rcases hk with rfl | rfl <;> simp [Node.cutGroup]
  simp only [sectionOf, Node.field_accessOnly]
  cases spec.field key with
  | error e => rfl
  | ok v => simp only [Functor.map, Except.map, hcut, bind, Except.bind, Node.get_restrict hl]

/-- **Frame.**  A class header reads the groups `functions` and `members` only at the three
access levels: cutting every other key from them changes nothing, whether the header is
made or fails. -/
theorem header_accessOnly (spec : Node) :
    g.header depth spec.accessOnly = g.header depth spec := by
  have hgroup : ∀ key functions, key = "functions" ∨ key = "members" →
      g.group (depth + 2) spec.accessOnly key functions = g.group (depth + 2) spec key functions :=
    fun key functions hk => by
      rw [group_eq, group_eq, mapM_congr_of_mem fun level hl => sectionOf_accessOnly hk hl]
  have hname : spec.accessOnly.field "name" = spec.field "name" := by
    rw [Node.field_accessOnly]
    have hcut : ∀ v, Node.cutGroup (lit "name") v = v := fun v => by
      rw [Node.cutGroup, if_neg (by decide)]
    cases spec.field "name" <;> simp [Functor.map, Except.map, hcut]
  simp only [header, hname, @Node.get_accessOnly "supers" (by decide) (by decide),
    @Node.get_accessOnly "template" (by decide) (by decide),
    hgroup "functions" true (.inl rfl), hgroup "members" false (.inr rfl)]

/-! ## Where the declarations stand

Putting the lines of the tidy header together with the prefix of four spaces: the
declarations of the header are those of its sections, functions before members and each
group by access level. -/

/-- The tidy header of a description that breaks no line, made when `depth` calls are open,
lists the access sections of the description that declare something, functions before
members and each group public, protected, private, each as its comment, its label and
its declarations, with one empty line between two sections and before the end of the
class.  The lines that start with four spaces are exactly the declarations, in order, each
made on its own with the same room.  Keys of the groups other than the access levels are
not read. -/
theorem header_declarations_in_sections {spec : Node} {hd : Header} (hspec : spec.Unbroken)
    (h : ready.header depth spec = .ok hd) :
    ∃ secs : List AccessSection, ready.accessSections depth spec = .ok secs ∧
      secs.map (fun s => (s.functions, s.level)) =
        [(true, "public"), (true, "protected"), (true, "private"),
          (false, "public"), (false, "protected"), (false, "private")] ∧
      (Text.lines (Text.tidy hd.text)).filter (lit "    ").isPrefixOf =
        (secs.flatMap AccessSection.decls).map declLine ∧
      (∃ pre, Text.lines (Text.tidy hd.text) =
        pre ++ [[]].intercalate ((secs.filter (!·.decls.isEmpty)).map AccessSection.lines) ++
          [[], lit "\x7d;", [], Text.tidyLine (lit "#endif __HEADER_" ++ hd.guard ++ lit "__")]) ∧
      ready.header depth spec.accessOnly = .ok hd := by
  obtain ⟨fs, ms, hfs, hms, lead, hlead, hlines⟩ := lines_tidy_header hspec h
  -- each section of the header is the one made on its own, three calls shallower
  have hshallow : ∀ {key functions ss},
      accessLevels.mapM (ready.sectionOf (depth + 3) spec key functions) = .ok ss →
        accessLevels.mapM (ready.sectionOf depth spec key functions) = .ok ss :=
    fun h' => mapM_ok_of_ok h' fun _ _ _ hs => sectionOf_of_le (Nat.le_add_right depth 3) hs
  have hss : ∀ s ∈ fs ++ ms, s.level ∈ accessLevels := fun s hs =>
    (List.mem_append.mp hs).elim (fun hs => (sections_flush hspec hfs s hs).level_mem)
      (fun hs => (sections_flush hspec hms s hs).level_mem)
  refine ⟨fs ++ ms, ?_, ?_, ?_, ⟨_, hlines⟩, by rw [header_accessOnly, h]⟩
  · simp [accessSections, hshallow hfs, hshallow hms, bind, Except.bind, pure, Except.pure]
  · rw [List.map_append, map_sections hfs, map_sections hms]
    rfl
  · -- only the declaration lines of the sections start with four spaces
    have hlead' : lead.filter (lit "    ").isPrefixOf = [] := by
      rcases hlead with rfl | rfl <;> rfl
    have hend :
        [[], lit "\x7d;", [], Text.tidyLine hd.endif].filter (lit "    ").isPrefixOf = [] := by
      have hendif : (lit "    ").isPrefixOf (Text.tidyLine hd.endif) = false :=
        isPrefixOf_spaces_of_head (tidyLine_head (by simp [Header.endif, lit]; decide))
      have hclose : (lit "    ").isPrefixOf (lit "\x7d;") = false := by decide
      simp [hendif, hclose, show (lit "    ").isPrefixOf [] = false from rfl]
    rw [hlines, List.filter_append, List.filter_append, List.filter_append,
      Header.filter_tidyForm_topLines, hlead', filter_intercalate_gap rfl, List.flatMap_map, hend,
      AccessSection.flatMap_filter_lines _ hss]
    simp

/-- A class `point` with one public function, a key of the function group that is no access
level, and one private member. -/
def pointSpec : Node :=
  .dict [(lit "name", .text (lit "point")),
    (lit "functions", .dict [
      (lit "public", .dict [(lit "norm", .dict [(lit "return", .text (lit "double"))])]),
      (lit "notes", .text (lit "x"))]),
    (lit "members", .dict [(lit "private", .dict [(lit "x", .text (lit "int"))])])]

/-- The header of `pointSpec`. -/
def pointHeader : Header where
  fileName := lit "point.cpp"
  guard := lit "POINT"
  className := lit "Point"
  params := []
  template := []
  supers := []
  sections := [lit "// Public functions.\npublic:\n    double norm();\n", [], [], [], [],
    lit "// Private members.\nprivate:\n    int m_x;\n"]

theorem header_declarations_in_sections_point :
    pointSpec.Unbroken ∧ ready.header 4 pointSpec = .ok pointHeader ∧
      ∃ secs : List AccessSection, ready.accessSections 4 pointSpec = .ok secs ∧
        secs.map (fun s => (s.functions, s.level)) =
          [(true, "public"), (true, "protected"), (true, "private"),
            (false, "public"), (false, "protected"), (false, "private")] ∧
        (Text.lines (Text.tidy pointHeader.text)).filter (lit "    ").isPrefixOf =
          (secs.flatMap AccessSection.decls).map declLine ∧
        (∃ pre, Text.lines (Text.tidy pointHeader.text) =
          pre ++ [[]].intercalate ((secs.filter (!·.decls.isEmpty)).map AccessSection.lines) ++
            [[], lit "\x7d;", [],
              Text.tidyLine (lit "#endif __HEADER_" ++ pointHeader.guard ++ lit "__")]) ∧
        ready.header 4 pointSpec.accessOnly = .ok pointHeader := by
  have hspec : pointSpec.Unbroken := by decide
  have hheader : ready.header 4 pointSpec = .ok pointHeader := by cbv
  exact ⟨hspec, hheader, header_declarations_in_sections hspec hheader⟩

end Generator

end StubGen
