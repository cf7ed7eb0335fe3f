/-
# `StubGen.Proofs.Declaration` — declarations, their room and their lines

A declaration asks for types at fixed depths below the one it is asked at, and the depth
decides only whether the calls open (`CallDepth`).  So a declaration that is made with
some calls open is made the same with fewer (`function_of_le`, `member_of_le`): a
declaration inside a class header is the declaration made on its own.

From a description none of whose texts breaks a line, a declaration is one line with no
blank in front (`Text.Flush`), since it is trimmed and every part of it (types, names,
shown values) breaks no line; the template parameters and the base classes break no
line either.

An access section is written from the declarations of its entries, each made one call
deeper (`accessSection_eq`); `AccessSection` holds those declarations with the level and
group they belong to, and `sectionOf` makes one from a description.  A group of sections
is the three access levels' sections in turn (`group_eq`).
-/
import StubGen.Decl
import StubGen.Proofs.TypeName
import StubGen.Proofs.Description
import StubGen.Proofs.Separated

namespace StubGen

open Text (Point lit)

namespace CallDepth

@[simp] theorem enter_eq_ok {d : Nat} {u : Unit} : enter d = .ok u ↔ fits d = true := by
  unfold enter
  split <;> simp_all

@[simp] theorem call_eq_ok {d : Nat} {u : Unit} : call d = .ok u ↔ fits d = true := by
  unfold call
  split <;> simp_all

end CallDepth

theorem mapM_map_comp {α β γ ε : Type} (f : α → Except ε β) (h : β → γ) :
    ∀ l : List α, l.mapM (fun x => h <$> f x) = List.map h <$> l.mapM f
  | [] => rfl
  | a :: l => by
      rw [List.mapM_cons, List.mapM_cons, mapM_map_comp f h l]
      cases f a <;> cases l.mapM f <;> rfl

/-- A text as a declaration stands in a header: no line break in it and no blank in
front. -/
structure Text.Flush (s : List Point) : Prop where
  unbroken : Text.Unbroken s
  indent_eq_zero : Text.indent s = 0

theorem Text.Flush.trim {s : List Point} (h : Text.Unbroken s) : Text.Flush (Text.trim s) :=
  ⟨h.trim, Text.indent_trim s⟩

namespace Generator

variable {g : Generator} {depth depth' : Nat}

/-! ## Room

A rendering asks for its calls at fixed depths below the one it is asked at, and a depth
decides nothing but whether they open.  So what a rendering, a function or a member gives
with some calls open it gives with fewer, each argument's type asked one call deeper at
both depths. -/

theorem typeName_of_le (hle : depth ≤ depth') {v : Node} {r : List Point}
    (h : g.typeName depth' v = .ok r) : g.typeName depth v = .ok r := by
  simp only [typeName, Except.bind_eq_ok, CallDepth.enter_eq_ok, CallDepth.call_eq_ok] at h ⊢
  obtain ⟨-, hfit, s, hs, -, hfit', hr⟩ := h
  refine ⟨(), CallDepth.fits_of_le hle hfit, s, hs, (), CallDepth.fits_of_le (by omega) hfit', ?_⟩
  cases ht : g.tables with
  | none =>
      rw [ht] at hr
      cases hr
  | some t =>
      rw [ht] at hr
      obtain ⟨k, rfl⟩ := Nat.exists_eq_add_of_le hle
      exact t.render_of_le hr

theorem function_of_le (hle : depth ≤ depth') {name values : Node} {d : List Point}
    (h : g.function depth' name values = .ok d) : g.function depth name values = .ok d := by
  simp only [function, Except.bind_eq_ok] at h ⊢
  obtain ⟨argsNode, hargs, args, hes, typed, htyped, dec, hdec, retNode, hret, ret, hr, m, hm,
    hd⟩ := h
  -- each argument type is asked for one call deeper, at both depths
  refine ⟨argsNode, hargs, args, hes, typed, mapM_ok_of_ok htyped fun e _ y hy => ?_, dec, hdec,
    retNode, hret, ret, typeName_of_le (by omega) hr, m, hm, hd⟩
  obtain ⟨t, ht, hy⟩ := Except.bind_eq_ok.mp hy
  exact Except.bind_eq_ok.mpr ⟨t, typeName_of_le (by omega) ht, hy⟩

theorem member_of_le (hle : depth ≤ depth') {name type : Node} {d : List Point}
    (h : g.member depth' name type = .ok d) : g.member depth name type = .ok d := by
  simp only [member, Except.bind_eq_ok] at h ⊢
  obtain ⟨t, ht, hd⟩ := h
  exact ⟨t, typeName_of_le (by omega) ht, hd⟩

/-! ## Declarations stand on one line

A declaration is trimmed, and every text that goes into it (a rendered type, a name, a
shown default) breaks no line when the description breaks none; so it is flush.  The
same holds of the template parameters and the base classes, which are joins of such
texts. -/

section Unbroken

open Text (Unbroken)

theorem typeName_unbroken {v : Node} (hv : v.Unbroken) {r : List Point}
    (h : ready.typeName depth v = .ok r) : Unbroken r := by
  simp only [typeName, Except.bind_eq_ok, CallDepth.enter_eq_ok, CallDepth.call_eq_ok] at h
  obtain ⟨-, -, s, hs, -, -, hr⟩ := h
  exact Tables.render_unbroken Tables.standard_unbroken hr (hv.asText hs)

theorem blank_not_lineBreak : Text.isLineBreak blank = false := rfl

theorem function_flush {name values : Node} (hn : name.Unbroken) (hv : values.Unbroken)
    {d : List Point} (h : ready.function depth name values = .ok d) : Text.Flush d := by
  simp only [function, Except.bind_eq_ok] at h
  obtain ⟨argsNode, hargs, args, hes, typed, htyped, dec, hdec, retNode, hret, ret, hr, m, hm,
    hd⟩ := h
  cases hd
  have hent := (hv.get (.dict (by simp) (by simp)) hargs).entries hes
  have htypedU : ∀ e ∈ typed, Unbroken e.1 ∧ Unbroken e.2 := fun e he => by
    obtain ⟨x, hx, hfx⟩ := mem_of_mapM_ok htyped e he
    obtain ⟨t, ht, he'⟩ := Except.bind_eq_ok.mp hfx
    cases he'
    exact ⟨(hent x hx).1, typeName_unbroken (hent x hx).2 ht⟩
  have hdec' := (hv.get (.text Unbroken.nil) hdec).display
  have hret' := typeName_unbroken (hv.get (.text (by decide)) hret) hr
  have hmod' := (hv.get (.text Unbroken.nil) hm).display
  -- the declaration is trimmed; its parts break no line
  refine Text.Flush.trim (Unbroken.append (Unbroken.append (Unbroken.append (Unbroken.append
    (Unbroken.trim (hdec'.append (Unbroken.cons_iff.mpr ⟨blank_not_lineBreak, hret'⟩)))
    (Unbroken.cons_iff.mpr ⟨blank_not_lineBreak, ?declared⟩)) (Unbroken.cons_iff.mpr ⟨rfl, ?args⟩))
    (Unbroken.cons_iff.mpr ⟨rfl, ?modifier⟩)) (Unbroken.cons_iff.mpr ⟨rfl, Unbroken.nil⟩))
  case declared =>
    split
    · rename_i k _ hk
      exact (htypedU _ (List.mem_of_getLast? hk)).1
    · exact hn.display
  case args =>
    split
    · exact Unbroken.nil
    · refine Unbroken.cons_iff.mpr ⟨blank_not_lineBreak, Unbroken.append
        (Unbroken.intercalate (by decide) fun w hw => ?_)
        (Unbroken.cons_iff.mpr ⟨blank_not_lineBreak, Unbroken.nil⟩)⟩
      obtain ⟨e, he, rfl⟩ := List.mem_map.mp hw
      exact (htypedU e he).2.append (Unbroken.cons_iff.mpr ⟨blank_not_lineBreak, (htypedU e he).1⟩)
  case modifier =>
    split
    · exact Unbroken.cons_iff.mpr ⟨blank_not_lineBreak, hmod'⟩
    · exact Unbroken.nil

theorem member_flush {name type : Node} (hn : name.Unbroken) (ht : type.Unbroken)
    {d : List Point} (h : ready.member depth name type = .ok d) : Text.Flush d := by
  simp only [member, Except.bind_eq_ok] at h
  obtain ⟨t, htn, hd⟩ := h
  cases hd
  exact Text.Flush.trim
    ((((typeName_unbroken ht htn).append (by decide)).append hn.display).append (by decide))

theorem templateParams_unbroken {data : Node} (hd : data.Unbroken) {r : List Point}
    (h : ready.templateParams depth data = .ok r) : Unbroken r := by
  rw [templateParams_eq_joined] at h
  simp only [Except.bind_eq_ok] at h
  obtain ⟨n, -, h⟩ := h
  split at h
  · cases h
    exact Unbroken.nil
  · simp only [Except.bind_eq_ok] at h
    obtain ⟨ms, hms, params, hparams, hr⟩ := h
    cases hr
    have hmsU := hd.members hms
    -- each parameter: its type, its name and its default, each read from a member
    have hp : ∀ p ∈ params, Unbroken p := fun p hp => by
      obtain ⟨x, hx, hfx⟩ := mem_of_mapM_ok hparams p hp
      simp only [Except.bind_eq_ok] at hfx
      obtain ⟨tn, htn, t, ht, dflt, hdflt, name, hname, hfx⟩ := hfx
      cases hfx
      have hxU := hmsU x hx
      have hdefault := (hxU.get (.text Unbroken.nil) hdflt).display
      refine Unbroken.cons_iff.mpr ⟨blank_not_lineBreak, Unbroken.append (Unbroken.append
        (typeName_unbroken (hxU.field htn) ht) (Unbroken.cons_iff.mpr ⟨blank_not_lineBreak,
        (hxU.field hname).display⟩)) ?_⟩
      split
      · exact Unbroken.nil
      · exact (show Unbroken (lit " = ") by decide).append hdefault
    exact Unbroken.cons_iff.mpr ⟨rfl, (Unbroken.intercalate (by decide) hp).append (by decide)⟩

theorem supers_unbroken {v : Node} (hv : v.Unbroken) {r : List Point}
    (h : ready.supers depth v = .ok r) : Unbroken r := by
  rw [supers_eq_joined] at h
  simp only [Except.bind_eq_ok] at h
  obtain ⟨n, -, h⟩ := h
  split at h
  · cases h
    exact Unbroken.nil
  · simp only [Except.bind_eq_ok] at h
    obtain ⟨ms, hms, bases, hbases, hr⟩ := h
    cases hr
    have hb : ∀ b ∈ bases, Unbroken b := fun b hb => by
      obtain ⟨x, hx, hfx⟩ := mem_of_mapM_ok hbases b hb
      obtain ⟨t, ht, hfx⟩ := Except.bind_eq_ok.mp hfx
      cases hfx
      exact (show Unbroken (lit " public ") by decide).append
        (typeName_unbroken (hv.members hms x hx) ht)
    exact Unbroken.cons_iff.mpr ⟨blank_not_lineBreak, Unbroken.cons_iff.mpr ⟨rfl,
      Unbroken.intercalate (by decide) hb⟩⟩

end Unbroken

/-! ## Access sections

A section declares each of its entries one call deeper, after four spaces, and is written
line by line; it keeps the level and the group it was asked for, and its declarations are
flush when the description breaks no line. -/

/-- Declares an entry of an access section: as a function or as a member. -/
def declare (g : Generator) (functions : Bool) (depth : Nat) (e : List Point × Node) :
    Except Fault (List Point) :=
  if functions then g.function depth (.text e.1) e.2 else g.member depth (.text e.1) e.2

@[simp] theorem declare_true : g.declare true depth = fun e => g.function depth (.text e.1) e.2 :=
  rfl

@[simp] theorem declare_false : g.declare false depth = fun e => g.member depth (.text e.1) e.2 :=
  rfl

theorem declare_of_le (hle : depth ≤ depth') {functions : Bool} {e : List Point × Node}
    {d : List Point} (h : g.declare functions depth' e = .ok d) :
    g.declare functions depth e = .ok d := by
  cases functions with
  | true => exact function_of_le hle h
  | false => exact member_of_le hle h

theorem declare_flush {functions : Bool} {e : List Point × Node} (hk : Text.Unbroken e.1)
    (hv : e.2.Unbroken) {d : List Point} (h : ready.declare functions depth e = .ok d) :
    Text.Flush d := by
  cases functions with
  | true => exact function_flush (.text hk) hv h
  | false => exact member_flush (.text hk) hv h

end Generator

/-- An access section of a class: its level, whether it holds functions or members, and
the declarations of its entries, in order. -/
structure AccessSection where
  level : String
  functions : Bool
  decls : List (List Point)

namespace AccessSection

/-- The word for what a section holds. -/
def kind (s : AccessSection) : List Point := if s.functions then lit "functions" else lit "members"

/-- The comment that opens a section: `// Public functions.` and so on. -/
def comment (s : AccessSection) : List Point :=
  lit "// " ++ Text.title (lit s.level) ++ .char ' ' :: s.kind ++ lit "."

/-- The label of a section's access level: `public:` and so on. -/
def label (s : AccessSection) : List Point := lit s.level ++ lit ":"

/-- The lines a section is written as: nothing when it declares nothing, and otherwise its
comment, its label and each declaration after four spaces. -/
def rawLines (s : AccessSection) : List (List Point) :=
  if s.decls = [] then [] else s.comment :: s.label :: s.decls.map (lit "    " ++ ·)

end AccessSection

namespace Generator

variable {g : Generator} {depth depth' : Nat}

/-- The access section of `spec` at `level` in the group `key`, each entry declared when
`depth` calls are open. -/
def sectionOf (g : Generator) (depth : Nat) (spec : Node) (key : String) (functions : Bool)
    (level : String) : Except Fault AccessSection := do
  let data ← (← spec.field key).get level (.dict [])
  let decls ← (← data.entries).mapM (g.declare functions depth)
  pure ⟨level, functions, decls⟩

theorem mapM_sectionLine (functions : Bool) (es : List (List Point × Node)) :
    es.mapM (fun (k, v) => do
      let d ← if functions then g.function (depth + 1) (.text k) v
        else g.member (depth + 1) (.text k) v
      pure (lit "    " ++ d ++ [.char '\n'])) =
    List.map (lit "    " ++ · ++ [.char '\n']) <$> es.mapM (g.declare functions (depth + 1)) := by
  rw [← mapM_map_comp]
  congr
  funext e
  cases functions <;> simp [declare]

/-- The text of an access section is its lines, each ended by a line feed. -/
theorem accessSection_eq (level : String) (data : Node) (functions : Bool) :
    g.accessSection depth (.text (lit level)) data functions =
      (fun decls => (AccessSection.mk level functions decls).rawLines.flatMap
        (· ++ [.char '\n'])) <$>
        (data.entries >>= fun es => es.mapM (g.declare functions (depth + 1))) := by
  unfold accessSection
  simp only [mapM_sectionLine, Node.asText, Node.display]
  cases data.entries with
  | error e => rfl
  | ok es =>
      simp only [bind, Except.bind, Functor.map, Except.map]
      cases es.mapM (g.declare functions (depth + 1)) with
      | error e => rfl
      | ok ds =>
          by_cases hds : ds = []
          · simp [hds, AccessSection.rawLines, pure, Except.pure]
          · simp [hds, AccessSection.rawLines, AccessSection.comment, AccessSection.label,
              AccessSection.kind, pure, Except.pure]
            refine ⟨rfl, ?_⟩
            rw [show lit ".\n" = lit "." ++ [Point.char '\n'] from rfl,
              show lit ":\n" = lit ":" ++ [Point.char '\n'] from rfl]
            simp [List.flatMap_def, Function.comp_def]

theorem sectionOf_of_le (hle : depth ≤ depth') {spec : Node} {key level : String}
    {functions : Bool} {s : AccessSection}
    (h : g.sectionOf depth' spec key functions level = .ok s) :
    g.sectionOf depth spec key functions level = .ok s := by
  simp only [sectionOf, Except.bind_eq_ok] at h ⊢
  obtain ⟨v, hv, data, hdata, es, hes, decls, hdecls, hs⟩ := h
  exact ⟨v, hv, data, hdata, es, hes, decls,
    mapM_ok_of_ok hdecls fun _ _ _ hd => declare_of_le hle hd, hs⟩

theorem sectionOf_level {spec : Node} {key level : String} {functions : Bool} {s : AccessSection}
    (h : g.sectionOf depth spec key functions level = .ok s) :
    s.level = level ∧ s.functions = functions := by
  simp only [sectionOf, Except.bind_eq_ok] at h
  obtain ⟨_, _, _, _, _, _, _, _, hs⟩ := h
  cases hs
  exact ⟨rfl, rfl⟩

theorem sectionOf_flush {spec : Node} (hspec : spec.Unbroken) {key level : String}
    {functions : Bool} {s : AccessSection}
    (h : ready.sectionOf depth spec key functions level = .ok s) :
    ∀ d ∈ s.decls, Text.Flush d := by
  simp only [sectionOf, Except.bind_eq_ok] at h
  obtain ⟨v, hv, data, hdata, es, hes, decls, hdecls, hs⟩ := h
  cases hs
  have hent := (((hspec.field hv).get (.dict (by simp) (by simp)) hdata).entries hes)
  intro d hd
  obtain ⟨e, he, hde⟩ := mem_of_mapM_ok hdecls d hd
  exact declare_flush (hent e he).1 (hent e he).2 hde

end Generator

end StubGen
