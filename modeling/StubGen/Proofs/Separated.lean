/-
# `StubGen.Proofs.Separated` — lists written with a comma between items

Template parameters and base classes are written by one loop, `Generator.appendSeparated`:
after a start text it appends each item's text, and it keeps a flag that says whether an
item has been written yet, so that a comma goes before every item but the first.  The
invariant of the loop is that the flag is set exactly once an item has been written; with
the text so far it reads: once the first item `t` is written, the loop carries the start
followed by `t` and the later items joined by commas (`foldlM_separatedStep_written`).  So
the whole loop is the start followed by all items joined by commas, and it fails with the
fault of the first item that fails, as one pass over the items does
(`appendSeparated_eq_intercalate`).

The two lists therefore have their joined forms (`templateParams_eq_joined`,
`supers_eq_joined`), and the main statement `separator_loops_eq_joins` reads them as a
description writes them: for a list of parameters that is not empty,
`< t₁ n₁, t₂ n₂ = d >`, each parameter its type, its name and its default (` = d` when the
dictionary gives a default whose text is not empty, in whichever order the loop looks
them up); for a list of base classes that is not empty, ` : public B₁, public B₂`; nothing
for an empty list of either, so that the template line is empty exactly when there are no
parameters.
-/
import Mathlib
import StubGen.Decl
import StubGen.Proofs.TypeName

namespace StubGen.Generator

open Text (Point lit)

/-! ## The separated loop

The loop carries the text so far and a flag that says whether an item was written.  Its
invariant: once an item is written the flag stays set and each later item follows a
comma.  So the loop is one pass over the items, joined by commas. -/

section Loop

variable {α : Type} (item : α → Except Fault (List Point))

/-- **The loop invariant.**  Once an item `t` has been written after `text`, the flag stays
set and the loop appends each later item after a comma. -/
theorem foldlM_separatedStep_written :
    ∀ (items : List α) (text t : List Point),
      items.foldlM (separatedStep item) (text ++ t, true) =
        (items.mapM item).map fun ts => (text ++ [Point.char ','].intercalate (t :: ts), true)
  | [], text, t => by
    simp only [List.foldlM_nil, List.mapM_nil]
    show Except.ok _ = Except.ok _
    simp
  | x :: items, text, t => by
    rw [List.foldlM_cons, List.mapM_cons]
    cases hx : item x with
    | error e =>
      have hstep : separatedStep item (text ++ t, true) x = .error e := by
        simp [separatedStep, hx, bind, Except.bind]
      rw [hstep]
      rfl
    | ok u =>
      -- the next item is written after a comma, and the flag stays set
      have hstep : separatedStep item (text ++ t, true) x =
          .ok (text ++ t ++ [Point.char ','] ++ u, true) := by
        simp [separatedStep, hx, bind, Except.bind, pure, Except.pure]
      rw [hstep]
      show items.foldlM (separatedStep item) (text ++ t ++ [Point.char ','] ++ u, true) = _
      rw [foldlM_separatedStep_written items (text ++ t ++ [Point.char ',']) u]
      cases items.mapM item with
      | error e => rfl
      | ok us =>
        show Except.ok _ = Except.ok _
        simp [List.intercalate_cons_cons]

/-- **The separated loop is a join.**  Appending the items to a start text with a comma
before each but the first is the start followed by the items joined by commas; the loop
fails with the fault of the first item that fails. -/
theorem appendSeparated_eq_intercalate (start : List Point) :
    ∀ items : List α, appendSeparated item start items =
      (fun ts => start ++ [Point.char ','].intercalate ts) <$> items.mapM item
  | [] => by
    simp only [appendSeparated, List.foldlM_nil, List.mapM_nil]
    show Except.ok _ = Except.ok _
    simp
  | x :: items => by
    simp only [appendSeparated, List.foldlM_cons, List.mapM_cons]
    cases hx : item x with
    | error e =>
      have hstep : separatedStep item (start, false) x = .error e := by
        simp [separatedStep, hx, bind, Except.bind]
      rw [hstep]
      rfl
    | ok u =>
      -- no comma before the first item; from then on the invariant carries the loop
      have hstep : separatedStep item (start, false) x = .ok (start ++ u, true) := by
        simp [separatedStep, hx, bind, Except.bind, pure, Except.pure]
      rw [hstep]
      show (items.foldlM (separatedStep item) (start ++ u, true) >>= fun r => pure r.1) = _
      rw [foldlM_separatedStep_written item items start u]
      cases items.mapM item with
      | error e => rfl
      | ok us => rfl

end Loop

/-! ## Template parameters and base classes as joins

Both lists are written by the separated loop, so each is a join of its items' texts;
`bind_map_left` moves the join past the loop's bind. -/

variable (g : Generator) (depth : Nat)

/-- The template parameters of a class are its parameters joined by commas between `<` and
` >`. -/
theorem templateParams_eq_joined (data : Node) :
    g.templateParams depth data = (do
      if (← data.size) = 0 then return []
      let params ← (← data.members).mapM fun d => do
        let t ← g.typeName (depth + 1) (← d.field "type")
        let default := (← d.get "default" (.text [])).display
        let defaultText := if default.isEmpty then [] else lit " = " ++ default
        let name ← d.field "name"
        pure (blank :: t ++ blank :: name.display ++ defaultText)
      pure (.char '<' :: [Point.char ','].intercalate params ++ lit " >")) := by
  simp only [templateParams, appendSeparated_eq_intercalate, bind_map_left]
  rfl

/-- The base classes of a class are ` public B` for each, joined by commas after ` :`. -/
theorem supers_eq_joined (v : Node) :
    g.supers depth v = (do
      if (← v.size) = 0 then return []
      let bases ← (← v.members).mapM fun s => do
        pure (lit " public " ++ (← g.typeName (depth + 1) s))
      pure (blank :: .char ':' :: [Point.char ','].intercalate bases)) := by
  simp only [supers, appendSeparated_eq_intercalate]
  cases v.size with
  | error e => rfl
  | ok n =>
    cases v.members with
    | error e => rfl
    | ok ms =>
      cases ms.mapM (fun s => do pure (lit " public " ++ (← g.typeName (depth + 1) s))) <;> rfl

/-! ## The lists as a description writes them

A parameter's type is read first, so only a dictionary gets past it, and a dictionary
answers for its default whichever of the name and the default is looked up first. -/

/-- The default of a template parameter as it is written after the parameter's name:
` = d` when the dictionary gives a default `d` whose text is not empty, nothing otherwise. -/
def defaultPart : Node → List Point
  | .dict es =>
    match es.lookup (lit "default") with
    | some v => if v.display.isEmpty then [] else lit " = " ++ v.display
    | none => []
  | _ => []

theorem templateParam_eq (d : Node) :
    (do
      let t ← g.typeName (depth + 1) (← d.field "type")
      let default := (← d.get "default" (.text [])).display
      let defaultText := if default.isEmpty then [] else lit " = " ++ default
      let name ← d.field "name"
      pure (blank :: t ++ blank :: name.display ++ defaultText)) =
    (do
      let t ← g.typeName (depth + 1) (← d.field "type")
      let name ← d.field "name"
      pure (blank :: t ++ blank :: name.display ++ defaultPart d)) := by
  cases d with
  | dict es =>
    cases hd : es.lookup (lit "default") <;>
      simp [Node.field, Node.get, defaultPart, hd, Node.display, bind, Except.bind]
  | _ => rfl

theorem template_eq_nil_iff (params : List Point) : template params = [] ↔ params = [] := by
  unfold template
  split
  · rename_i h
    simp [List.isEmpty_iff.mp h]
  · rename_i h
    simp only [List.append_assoc, List.append_eq_nil_iff, reduceCtorEq, and_false, false_iff]
    intro hp
    simp [hp] at h

theorem templateParams_list {ds : List Node} (hne : ds ≠ []) :
    g.templateParams depth (.list ds) =
      (ds.mapM fun (d : Node) => do
          let t ← g.typeName (depth + 1) (← d.field "type")
          let name ← d.field "name"
          pure (blank :: t ++ blank :: name.display ++ defaultPart d)).map
        fun ps => Point.char '<' :: [Point.char ','].intercalate ps ++ lit " >" := by
  have hlen : ds.length ≠ 0 := by simpa using hne
  rw [templateParams_eq_joined]
  simp only [templateParam_eq]
  simp only [Node.size, Node.members, bind, Except.bind, hlen, if_false]
  split <;> rename_i h <;> rw [h] <;> rfl

theorem supers_list {xs : List Node} (hne : xs ≠ []) :
    g.supers depth (.list xs) =
      (xs.mapM fun (x : Node) => do pure (lit " public " ++ (← g.typeName (depth + 1) x))).map
        fun bs => lit " :" ++ [Point.char ','].intercalate bs := by
  have hlen : xs.length ≠ 0 := by simpa using hne
  rw [supers_eq_joined]
  simp only [Node.size, Node.members, bind, Except.bind, hlen, if_false]
  split <;> rename_i h <;> rw [h] <;> rfl

/-- **Template parameters and base classes as joins.**  For a list of parameters that is not
empty, the loop writes `<`, then for each parameter its type, its name and its default (see
`defaultPart`) after a blank each, joined by commas, then ` >`; for a list of base classes
that is not empty, ` :` and then ` public B` for each, joined by commas.  Either fails as
soon as one item does, with that item's fault.  An empty list of either gives nothing, so the
template line is empty exactly when the list of parameters is. -/
theorem separator_loops_eq_joins (ds xs : List Node) :
    (ds ≠ [] → g.templateParams depth (.list ds) =
      (ds.mapM fun (d : Node) => do
          let t ← g.typeName (depth + 1) (← d.field "type")
          let name ← d.field "name"
          pure (blank :: t ++ blank :: name.display ++ defaultPart d)).map
        fun ps => Point.char '<' :: [Point.char ','].intercalate ps ++ lit " >") ∧
    (xs ≠ [] → g.supers depth (.list xs) =
      (xs.mapM fun (x : Node) => do pure (lit " public " ++ (← g.typeName (depth + 1) x))).map
        fun bs => lit " :" ++ [Point.char ','].intercalate bs) ∧
    g.templateParams depth (.list []) = .ok [] ∧ g.supers depth (.list []) = .ok [] ∧
    ∀ r, g.templateParams depth (.list ds) = .ok r → (template r = [] ↔ ds = []) := by
  refine ⟨templateParams_list g depth, supers_list g depth, rfl, rfl, fun r hr => ?_⟩
  rw [template_eq_nil_iff]
  cases ds with
  | nil =>
    cases hr
    simp
  | cons d ds =>
    -- a parameter list that is not empty starts with `<`
    rw [templateParams_list g depth (List.cons_ne_nil d ds)] at hr
    obtain ⟨ps, -, rfl⟩ := Except.map_eq_ok.mp hr
    simp

/-- Two parameters, one with a default and one whose default is empty, and two base classes,
one under a modifier. -/
theorem separator_loops_eq_joins_pair :
    ready.templateParams 5 (.list [
        .dict [(lit "type", .text (lit "int")), (lit "name", .text (lit "N")),
          (lit "default", .int 3)],
        .dict [(lit "type", .text (lit "T")), (lit "name", .text (lit "x")),
          (lit "default", .text [])]]) = .ok (lit "< int N = 3, T x >") ∧
    ready.supers 5 (.list [.text (lit "Base"), .text (lit "ptr-Mixin")]) =
      .ok (lit " : public Base, public Mixin*") := by
  constructor
  · rw [(separator_loops_eq_joins ready 5 _ []).1 (List.cons_ne_nil _ _)]
    cbv
  · rw [(separator_loops_eq_joins ready 5 [] _).2.1 (List.cons_ne_nil _ _)]
    cbv

end StubGen.Generator
