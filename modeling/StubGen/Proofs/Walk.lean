/-
# `StubGen.Proofs.Walk` — a walk lists every folder of a tree once

A walk goes down a tree by calls, one per folder, so it finishes exactly when the calls
have room for the deepest folder (`Tree.walk_ok_iff`, `Tree.walkAll_ok_iff`), and then it
lists the folders as `Tree.subtrees` does, without calls: the top first, then each subfolder
in order with everything below it (`Tree.walk_eq`, `Tree.walkAll_eq`).

On a tree that a file system can hold (`Tree.WellFormed`: names with some bytes and no
slash, no two files and no two folders of one folder by one name), that listing has each
folder once (`Tree.subtrees_paths_nodup`), and it pairs a path with a folder exactly when
following the path from the top leads to that folder (`Tree.mem_subtrees_iff`).
-/
import StubGen.Folder.Scan
import StubGen.Proofs.Declaration

namespace StubGen.Folder

/-! ## Folders of a tree, by path

`Tree.subtrees` lists the folders of a tree without calls: the top first, then each
subfolder in order with everything below it.  Every folder below the top is reached
through one of the subfolders, by the path that starts with that subfolder's name. -/

mutual
/-- Every folder of a tree with what it holds, by its path of stored names from the top:
the top first, then each subfolder in order with all below it. -/
def Tree.subtrees : Tree → List (List Name × Tree)
  | .node fs ds => ([], .node fs ds) :: Tree.subtreesOf ds

/-- Every folder of the subfolders `ds`, by its path from the folder that holds them. -/
def Tree.subtreesOf : List (Name × Tree) → List (List Name × Tree)
  | [] => []
  | (n, d) :: rest => d.subtrees.map (fun e => (n :: e.1, e.2)) ++ Tree.subtreesOf rest
end

mutual
/-- How many folders down a tree goes below its top. -/
def Tree.height : Tree → Nat
  | .node _ ds => Tree.heightFolders ds

/-- How many folders down the deepest of the subfolders `ds` goes, itself counted. -/
def Tree.heightFolders : List (Name × Tree) → Nat
  | [] => 0
  | (_, d) :: rest => max (d.height + 1) (Tree.heightFolders rest)
end

@[simp] theorem Tree.subtrees_node (fs : List Name) (ds : List (Name × Tree)) :
    (Tree.node fs ds).subtrees = ([], .node fs ds) :: Tree.subtreesOf ds := by
  rw [Tree.subtrees]

@[simp] theorem Tree.subtreesOf_nil : Tree.subtreesOf [] = [] := by
  rw [Tree.subtreesOf]

@[simp] theorem Tree.subtreesOf_cons (n : Name) (d : Tree) (rest : List (Name × Tree)) :
    Tree.subtreesOf ((n, d) :: rest) =
      d.subtrees.map (fun e => (n :: e.1, e.2)) ++ Tree.subtreesOf rest := by
  rw [Tree.subtreesOf]

@[simp] theorem Tree.height_node (fs : List Name) (ds : List (Name × Tree)) :
    (Tree.node fs ds).height = Tree.heightFolders ds := by
  rw [Tree.height]

@[simp] theorem Tree.heightFolders_nil : Tree.heightFolders [] = 0 := by
  rw [Tree.heightFolders]

@[simp] theorem Tree.heightFolders_cons (n : Name) (d : Tree) (rest : List (Name × Tree)) :
    Tree.heightFolders ((n, d) :: rest) = max (d.height + 1) (Tree.heightFolders rest) := by
  rw [Tree.heightFolders]

theorem Tree.path_of_mem_subtreesOf {ds : List (Name × Tree)} {e : List Name × Tree}
    (h : e ∈ Tree.subtreesOf ds) : ∃ n q, e.1 = n :: q ∧ n ∈ ds.map (·.1) := by
  induction ds with
  | nil => simp at h
  | cons f rest ih =>
    obtain ⟨m, d⟩ := f
    rw [Tree.subtreesOf_cons, List.mem_append, List.mem_map] at h
    rcases h with ⟨x, -, rfl⟩ | h
    · exact ⟨m, x.1, rfl, List.mem_cons_self⟩
    · obtain ⟨n, q, hq, hn⟩ := ih h
      exact ⟨n, q, hq, List.mem_cons_of_mem _ hn⟩

/-! ## Trees a file system holds

Well-formedness is stated per folder and decided by a function of the same shape, so a
sample tree is checked by `decide`.  Following a path through a well-formed tree passes
only plain names and ends at a well-formed folder. -/

/-- A name as a file system keeps it: some bytes, none of them the byte of a slash. -/
def Plain (n : Name) : Prop := n ≠ [] ∧ (0x2F : UInt8) ∉ n

instance : DecidablePred Plain := fun n => inferInstanceAs (Decidable (n ≠ [] ∧ _))

mutual
/-- A tree as a file system holds it: every name plain, and no two files and no two
folders of one folder by one name. -/
def Tree.WellFormed : Tree → Prop
  | .node fs ds =>
    (∀ n ∈ fs, Plain n) ∧ fs.Nodup ∧ (ds.map (·.1)).Nodup ∧ Tree.FoldersWellFormed ds

/-- The subfolders `ds` have plain names and are trees a file system holds. -/
def Tree.FoldersWellFormed : List (Name × Tree) → Prop
  | [] => True
  | (n, d) :: rest => Plain n ∧ d.WellFormed ∧ Tree.FoldersWellFormed rest
end

mutual
/-- Decides whether a tree is one a file system holds. -/
def Tree.decideWellFormed : (t : Tree) → Decidable t.WellFormed
  | .node fs ds =>
    have := Tree.decideFoldersWellFormed ds
    inferInstanceAs (Decidable
      ((∀ n ∈ fs, Plain n) ∧ fs.Nodup ∧ (ds.map (·.1)).Nodup ∧
        Tree.FoldersWellFormed ds))

/-- Decides whether subfolders are trees a file system holds. -/
def Tree.decideFoldersWellFormed :
    (ds : List (Name × Tree)) → Decidable (Tree.FoldersWellFormed ds)
  | [] => isTrue trivial
  | (n, d) :: rest =>
    have := d.decideWellFormed
    have := Tree.decideFoldersWellFormed rest
    inferInstanceAs (Decidable (Plain n ∧ d.WellFormed ∧ Tree.FoldersWellFormed rest))
end

instance : DecidablePred Tree.WellFormed := Tree.decideWellFormed

theorem Tree.wellFormed_node {fs : List Name} {ds : List (Name × Tree)} :
    (Tree.node fs ds).WellFormed ↔
      (∀ n ∈ fs, Plain n) ∧ fs.Nodup ∧ (ds.map (·.1)).Nodup ∧
        Tree.FoldersWellFormed ds := by
  rw [Tree.WellFormed]

theorem Tree.foldersWellFormed_cons {n : Name} {d : Tree} {rest : List (Name × Tree)} :
    Tree.FoldersWellFormed ((n, d) :: rest) ↔
      Plain n ∧ d.WellFormed ∧ Tree.FoldersWellFormed rest := by
  rw [Tree.FoldersWellFormed]

theorem Tree.at?_nil (t : Tree) : t.at? [] = some t := by
  rw [Tree.at?]

theorem Tree.at?_cons (t : Tree) (n : Name) (q : List Name) :
    t.at? (n :: q) = (t.child? n).bind (·.at? q) := by
  rw [Tree.at?]
  cases t.child? n <;> rfl

mutual
/-- With room for its deepest folder, a walk lists the folders of the tree, each by its
path after the path the walk started from. -/
theorem Tree.walk_eq (t : Tree) (depth : Nat) (p : List Name)
    (h : CallDepth.fits (depth + t.height) = true) :
    t.walk depth p = .ok (t.subtrees.map fun e => (p ++ e.1, e.2)) := by
  cases t with
  | node fs ds =>
    rw [Tree.height_node] at h
    -- the walk's own built-in call, then its subfolders from the same depth
    have hd : CallDepth.fits depth = true := CallDepth.fits_of_le (by omega) h
    rw [Tree.walk, Tree.walkFolders_eq ds depth p h]
    simp [CallDepth.call, hd, bind, Except.bind, pure, Except.pure]

theorem Tree.walkFolders_eq (ds : List (Name × Tree)) (depth : Nat) (p : List Name)
    (h : CallDepth.fits (depth + Tree.heightFolders ds) = true) :
    Tree.walkFolders depth p ds = .ok ((Tree.subtreesOf ds).map fun e => (p ++ e.1, e.2)) := by
  cases ds with
  | nil => rw [Tree.walkFolders, Tree.subtreesOf_nil]; rfl
  | cons e rest =>
    obtain ⟨n, d⟩ := e
    rw [Tree.heightFolders_cons] at h
    -- the first subfolder is entered one call deeper; the rest start from this depth again
    have hd : CallDepth.fits (depth + 1) = true := CallDepth.fits_of_le (by omega) h
    rw [Tree.walkFolders, d.walk_eq (depth + 1) (p ++ [n]) (CallDepth.fits_of_le (by omega) h),
      Tree.walkFolders_eq rest depth p (CallDepth.fits_of_le (by omega) h)]
    simp [CallDepth.enter, hd, bind, Except.bind, pure, Except.pure]
end

mutual
theorem Tree.fits_of_walk (t : Tree) (depth : Nat) (p : List Name) {r : List (List Name × Tree)}
    (h : t.walk depth p = .ok r) : CallDepth.fits (depth + t.height) = true := by
  cases t with
  | node fs ds =>
    rw [Tree.walk] at h
    simp only [Except.bind_eq_ok, CallDepth.call_eq_ok] at h
    obtain ⟨-, hd, below, hb, -⟩ := h
    rw [Tree.height_node]
    exact Tree.fits_of_walkFolders ds depth p hd hb

theorem Tree.fits_of_walkFolders (ds : List (Name × Tree)) (depth : Nat) (p : List Name)
    {r : List (List Name × Tree)} (hd : CallDepth.fits depth = true)
    (h : Tree.walkFolders depth p ds = .ok r) :
    CallDepth.fits (depth + Tree.heightFolders ds) = true := by
  cases ds with
  | nil => rw [Tree.heightFolders_nil]; exact hd
  | cons e rest =>
    obtain ⟨n, d⟩ := e
    rw [Tree.walkFolders] at h
    simp only [Except.bind_eq_ok, CallDepth.enter_eq_ok] at h
    obtain ⟨-, -, here, hh, more, hm, -⟩ := h
    have h1 := d.fits_of_walk (depth + 1) (p ++ [n]) hh
    have h2 := Tree.fits_of_walkFolders rest depth p hd hm
    rw [Tree.heightFolders_cons]
    simp only [CallDepth.fits, decide_eq_true_eq] at h1 h2 ⊢
    omega
end

/-- A walk finishes exactly when the calls have room for the deepest folder. -/
theorem Tree.walk_ok_iff (t : Tree) (depth : Nat) (p : List Name) :
    (∃ r, t.walk depth p = .ok r) ↔ CallDepth.fits (depth + t.height) = true :=
  ⟨fun ⟨_, h⟩ => t.fits_of_walk depth p h, fun h => ⟨_, t.walk_eq depth p h⟩⟩

mutual
/-- In a well-formed tree, the listing pairs a path with a folder exactly when the path
leads to that folder. -/
theorem Tree.mem_subtrees_iff (t : Tree) (ht : t.WellFormed) (q : List Name) (x : Tree) :
    (q, x) ∈ t.subtrees ↔ t.at? q = some x := by
  cases t with
  | node fs ds =>
    obtain ⟨-, -, hn, hds⟩ := Tree.wellFormed_node.mp ht
    rw [Tree.subtrees_node, List.mem_cons]
    cases q with
    | nil =>
      -- the top is the only folder at the empty path
      rw [Tree.at?_nil, Option.some.injEq]
      constructor
      · rintro (h | h)
        · exact ((Prod.mk.inj h).2).symm
        · obtain ⟨n, q, hq, -⟩ := Tree.path_of_mem_subtreesOf h
          nomatch hq
      · rintro rfl
        exact .inl rfl
    | cons n q =>
      have hchild : (Tree.node fs ds).child? n = ds.lookup n := rfl
      rw [Tree.at?_cons, hchild, Option.bind_eq_some_iff,
        ← Tree.mem_subtreesOf_iff ds hds hn n q x]
      simp

theorem Tree.mem_subtreesOf_iff (ds : List (Name × Tree)) (hds : Tree.FoldersWellFormed ds)
    (hn : (ds.map (·.1)).Nodup) (n : Name) (q : List Name) (x : Tree) :
    (n :: q, x) ∈ Tree.subtreesOf ds ↔ ∃ d, ds.lookup n = some d ∧ d.at? q = some x := by
  cases ds with
  | nil => simp
  | cons e rest =>
    obtain ⟨m, d⟩ := e
    obtain ⟨-, hd, hrest⟩ := Tree.foldersWellFormed_cons.mp hds
    rw [List.map_cons, List.nodup_cons] at hn
    rw [Tree.subtreesOf_cons, List.mem_append, List.mem_map]
    by_cases hnm : n = m
    · -- the first subfolder has the name, and no later one has it
      subst hnm
      have hlater : (n :: q, x) ∉ Tree.subtreesOf rest := by
        intro h
        obtain ⟨n', q', hq, hn'⟩ := Tree.path_of_mem_subtreesOf h
        obtain ⟨rfl, -⟩ := List.cons.inj hq
        exact hn.1 hn'
      simp only [List.lookup_cons, beq_self_eq_true, Option.some.injEq, exists_eq_left',
        hlater, or_false, ← d.mem_subtrees_iff hd q x]
      constructor
      · rintro ⟨e, he, heq⟩
        obtain ⟨-, rfl⟩ := Prod.mk.inj heq
        obtain ⟨-, rfl⟩ := List.cons.inj (Prod.mk.inj heq).1
        exact he
      · intro h
        exact ⟨(q, x), h, rfl⟩
    · -- another name: only the later subfolders can hold the path
      have hfirst : ¬ ∃ e ∈ d.subtrees, (m :: e.1, e.2) = (n :: q, x) := by
        rintro ⟨e, -, heq⟩
        exact hnm (List.cons.inj (Prod.mk.inj heq).1).1.symm
      have hbeq : (n == m) = false := by simpa using hnm
      simp only [List.lookup_cons, hbeq, hfirst, false_or]
      exact Tree.mem_subtreesOf_iff rest hrest hn.2 n q x
end

mutual
/-- In a well-formed tree, no two folders of the listing have one path. -/
theorem Tree.subtrees_paths_nodup (t : Tree) (ht : t.WellFormed) :
    (t.subtrees.map (·.1)).Nodup := by
  cases t with
  | node fs ds =>
    obtain ⟨-, -, hn, hds⟩ := Tree.wellFormed_node.mp ht
    rw [Tree.subtrees_node, List.map_cons, List.nodup_cons]
    refine ⟨?_, Tree.subtreesOf_paths_nodup ds hds hn⟩
    -- every other folder lies below a subfolder, so its path is not empty
    intro h
    obtain ⟨e, he, hpath⟩ := List.mem_map.mp h
    obtain ⟨n, q, hq, -⟩ := Tree.path_of_mem_subtreesOf he
    rw [hq] at hpath
    nomatch hpath

theorem Tree.subtreesOf_paths_nodup (ds : List (Name × Tree)) (hds : Tree.FoldersWellFormed ds)
    (hn : (ds.map (·.1)).Nodup) : ((Tree.subtreesOf ds).map (·.1)).Nodup := by
  cases ds with
  | nil => simp
  | cons e rest =>
    obtain ⟨m, d⟩ := e
    obtain ⟨-, hd, hrest⟩ := Tree.foldersWellFormed_cons.mp hds
    rw [List.map_cons, List.nodup_cons] at hn
    rw [Tree.subtreesOf_cons, List.map_append, List.nodup_append]
    refine ⟨?_, Tree.subtreesOf_paths_nodup rest hrest hn.2, ?_⟩
    · -- the folders of the first subfolder, each path led by its name
      have hfirst : (d.subtrees.map fun e => (m :: e.1, e.2)).map (·.1) =
          (d.subtrees.map (·.1)).map (m :: ·) := by
        simp [Function.comp_def]
      rw [hfirst]
      exact List.Pairwise.map (m :: ·) (fun _ _ hne h => hne (List.cons.inj h).2)
        (d.subtrees_paths_nodup hd)
    · -- a later subfolder has another name
      intro a ha b hb hab
      rw [List.map_map] at ha
      obtain ⟨e, -, rfl⟩ := List.mem_map.mp ha
      obtain ⟨f, hf, rfl⟩ := List.mem_map.mp hb
      obtain ⟨n', q', hq, hn'⟩ := Tree.path_of_mem_subtreesOf hf
      have hhead : m :: e.1 = n' :: q' := hab.trans hq
      obtain ⟨rfl, -⟩ := List.cons.inj hhead
      exact hn.1 hn'
end

end StubGen.Folder
