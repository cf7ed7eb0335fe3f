/-
# `StubGen.Proofs.Folder.Entry` — what a path leads to, and what adding a folder changes

`Tree.entry t q` says what the path `q` of stored names leads to inside the folder `t`: a
folder when each name is a folder of the one before, a file when all names but the last are
folders and the last names a file and no folder there, and nothing otherwise.  It agrees
with `Tree.at?` on folders (`Tree.entry_eq_folder_iff`), and whatever a path leads to has
folders above it (`Tree.entry_eq_folder_of_append`).

A change made to the folder at a path shows below that path as the change of that folder,
and nowhere else (`Tree.entry_modify_append`, `Tree.entry_modify_outside`).  So adding
a folder changes the view at one path only (`Tree.entry_addFolder`): the new folder's path
leads to a folder, and every other path leads where it led before; adding a file likewise
(`Tree.entry_addFile`).

`Tree.fileOnWay t q` finds the file that stands on the way down to `q`: the number of names
above it, when a name of `q` before the last leads to a file (`Tree.fileOnWay_eq_some_iff`).
It depends on the files of the view alone (`Tree.fileOnWay_congr`).
-/
import StubGen.Proofs.Walk

namespace StubGen.Folder

/-- What a path leads to inside a folder, when it leads to an entry. -/
inductive Entry where
  | folder
  | file
  deriving DecidableEq, Repr

theorem lookup_cons_eq {m k : Name} {c : Tree} {ds : List (Name × Tree)} :
    ((k, c) :: ds).lookup m = if m = k then some c else ds.lookup m := by
  rw [List.lookup_cons]
  by_cases h : m = k
  · rw [if_pos h, h, beq_self_eq_true]
  · rw [if_neg h, beq_false_of_ne h]

namespace Tree

/-- What the path `q` leads to inside the folder `t`: a folder, a file, or nothing.  A name
that is a folder is followed; a last name that is no folder but a file leads to that file. -/
def entry : Tree → List Name → Option Entry
  | _, [] => some .folder
  | t, n :: q =>
    match t.child? n with
    | some c => c.entry q
    | none => if q.isEmpty && t.files.contains n then some .file else none

theorem entry_nil (t : Tree) : t.entry [] = some .folder := by
  rw [entry]

theorem entry_cons_of_child {t c : Tree} {n : Name} (h : t.child? n = some c) (q : List Name) :
    t.entry (n :: q) = c.entry q := by
  rw [entry, h]

theorem entry_cons_of_no_child {t : Tree} {n : Name} (h : t.child? n = none) (q : List Name) :
    t.entry (n :: q) = if q.isEmpty && t.files.contains n then some .file else none := by
  rw [entry, h]

theorem entry_cons_cons_of_no_child {t : Tree} {n : Name} (h : t.child? n = none)
    (m : Name) (q : List Name) : t.entry (n :: m :: q) = none := by
  rw [entry_cons_of_no_child h]
  rfl

/-- A path leads to a folder exactly when following it through folders ends somewhere. -/
theorem entry_eq_folder_iff (t : Tree) (q : List Name) :
    t.entry q = some .folder ↔ (t.at? q).isSome := by
  induction q generalizing t with
  | nil => simp [entry_nil, at?_nil]
  | cons n q ih =>
    rw [at?_cons]
    cases hc : t.child? n with
    | some c => rw [entry_cons_of_child hc, ih, Option.bind_some]
    | none =>
      rw [entry_cons_of_no_child hc]
      split <;> simp

theorem exists_at?_of_entry {t : Tree} {q : List Name} (h : t.entry q = some .folder) :
    ∃ d, t.at? q = some d :=
  Option.isSome_iff_exists.mp ((entry_eq_folder_iff t q).mp h)

theorem entry_append {t d : Tree} {a : List Name} (h : t.at? a = some d) (b : List Name) :
    t.entry (a ++ b) = d.entry b := by
  induction a generalizing t with
  | nil =>
    rw [at?_nil, Option.some.injEq] at h
    rw [List.nil_append, h]
  | cons n a ih =>
    rw [at?_cons, Option.bind_eq_some_iff] at h
    obtain ⟨c, hc, ha⟩ := h
    rw [List.cons_append, entry_cons_of_child hc, ih ha]

theorem at?_append {t d : Tree} {a : List Name} (h : t.at? a = some d) (b : List Name) :
    t.at? (a ++ b) = d.at? b := by
  induction a generalizing t with
  | nil =>
    rw [at?_nil, Option.some.injEq] at h
    rw [List.nil_append, h]
  | cons n a ih =>
    rw [at?_cons, Option.bind_eq_some_iff] at h
    obtain ⟨c, hc, ha⟩ := h
    rw [List.cons_append, at?_cons, hc, Option.bind_some, ih ha]

/-- Above whatever a path leads to stand folders. -/
theorem entry_eq_folder_of_append {t : Tree} {a b : List Name} (h : t.entry (a ++ b) ≠ none)
    (hb : b ≠ []) : t.entry a = some .folder := by
  induction a generalizing t with
  | nil => exact entry_nil t
  | cons n a ih =>
    rw [List.cons_append] at h
    cases hc : t.child? n with
    | some c =>
      rw [entry_cons_of_child hc] at h ⊢
      exact ih h
    | none =>
      obtain ⟨m, b', rfl⟩ := List.exists_cons_of_ne_nil hb
      obtain ⟨k, a', ha⟩ : ∃ k a', a ++ m :: b' = k :: a' := by
        cases a with
        | nil => exact ⟨m, b', rfl⟩
        | cons k a' => exact ⟨k, a' ++ m :: b', rfl⟩
      rw [ha, entry_cons_cons_of_no_child hc] at h
      exact absurd rfl h

theorem entry_eq_folder_of_isPrefix {t : Tree} {a q : List Name} (h : t.entry q ≠ none)
    (hp : a <+: q) (hlt : a.length < q.length) : t.entry a = some .folder := by
  obtain ⟨b, rfl⟩ := hp
  refine entry_eq_folder_of_append h ?_
  rintro rfl
  simp at hlt

theorem holdsName_eq_false {d : Tree} {name : Name} :
    d.holdsName name = false ↔ d.child? name = none ∧ name ∉ d.files := by
  simp [holdsName]

theorem holdsName_eq_false_iff_entry {d : Tree} {name : Name} :
    d.holdsName name = false ↔ d.entry [name] = none := by
  rw [holdsName_eq_false]
  cases hc : d.child? name with
  | some c => simp [entry_cons_of_child hc, entry_nil]
  | none => simp [entry_cons_of_no_child hc]

theorem entry_eq_file_iff (t : Tree) (q : List Name) :
    t.entry q = some .file ↔
      ∃ a n e, q = a ++ [n] ∧ t.at? a = some e ∧ e.child? n = none ∧ n ∈ e.files := by
  induction q generalizing t with
  | nil => simp [entry_nil]
  | cons n q ih =>
    cases hc : t.child? n with
    | some c =>
      rw [entry_cons_of_child hc, ih]
      constructor
      · rintro ⟨a, m, e, rfl, ha, hm, hf⟩
        exact ⟨n :: a, m, e, rfl, by rw [at?_cons, hc, Option.bind_some, ha], hm, hf⟩
      · rintro ⟨a, m, e, hq, ha, hm, hf⟩
        cases a with
        | nil =>
          obtain ⟨rfl, rfl⟩ := List.cons_eq_cons.mp hq
          rw [at?_nil, Option.some.injEq] at ha
          subst ha
          rw [hc] at hm
          exact absurd hm (by simp)
        | cons k a =>
          obtain ⟨rfl, rfl⟩ := List.cons_eq_cons.mp hq
          rw [at?_cons, hc, Option.bind_some] at ha
          exact ⟨a, m, e, rfl, ha, hm, hf⟩
    | none =>
      rw [entry_cons_of_no_child hc]
      constructor
      · intro h
        have hq : q = [] := by
          by_contra hq
          simp [hq] at h
        subst hq
        have hf : n ∈ t.files := by simpa using h
        exact ⟨[], n, t, rfl, at?_nil t, hc, hf⟩
      · rintro ⟨a, m, e, hq, ha, hm, hf⟩
        cases a with
        | nil =>
          obtain ⟨rfl, rfl⟩ := List.cons_eq_cons.mp hq
          rw [at?_nil, Option.some.injEq] at ha
          subst ha
          simpa using hf
        | cons k a =>
          obtain ⟨rfl, rfl⟩ := List.cons_eq_cons.mp hq
          rw [at?_cons, hc, Option.bind_none] at ha
          exact absurd ha (by simp)

theorem entry_eq_folder_of_prefix_folder {t : Tree} {a q : List Name}
    (h : t.entry q = some .folder) (hp : a <+: q) : t.entry a = some .folder := by
  rcases Nat.lt_or_eq_of_le hp.length_le with hlt | heq
  · exact entry_eq_folder_of_isPrefix (by rw [h]; simp) hp hlt
  · rwa [hp.eq_of_length heq]

theorem entry_eq_of_iff {s t : Tree} {z w : List Name}
    (hfolder : s.entry z = some .folder ↔ t.entry w = some .folder)
    (hfile : s.entry z = some .file ↔ t.entry w = some .file) : s.entry z = t.entry w := by
  cases hs : s.entry z with
  | none =>
    cases ht : t.entry w with
    | none => rfl
    | some e => cases e <;> simp_all
  | some e => cases e <;> simp_all

/-! ## Changing a folder on a path

A change made at a folder's path shows below that path as the change of the folder, and
nowhere else: paths that do not pass through the folder lead where they led.  Adding one
entry of a new name inside a folder is such a change, so it adds exactly that path. -/

theorem files_modify_cons (f : Tree → Tree) (t : Tree) (n : Name) (q : List Name) :
    (t.modify f (n :: q)).files = t.files := by
  obtain ⟨fs, ds⟩ := t
  rfl

theorem child?_modify_cons (f : Tree → Tree) (t : Tree) (n m : Name) (q : List Name) :
    (t.modify f (n :: q)).child? m = (t.child? m).map fun c => if m = n then c.modify f q else c := by
  obtain ⟨fs, ds⟩ := t
  show (ds.map _).lookup m = (ds.lookup m).map _
  induction ds with
  | nil => rfl
  | cons e ds ih =>
    obtain ⟨k, c⟩ := e
    rw [List.map_cons, lookup_cons_eq]
    by_cases hk : k = n
    · subst hk
      by_cases hm : m = k <;> simp [hm, lookup_cons_eq, ih]
    · by_cases hm : m = k
      · subst hm
        simp [hk]
      · simp [hk, hm, lookup_cons_eq, ih]

section Modify

variable {f : Tree → Tree}

/-- A change made at a folder's path shows below that path as the change of the folder. -/
theorem entry_modify_append : ∀ {t d : Tree} {dir : List Name}, t.at? dir = some d →
    ∀ w, (t.modify f dir).entry (dir ++ w) = (f d).entry w
  | t, d, [], hd, w => by
    rw [at?_nil, Option.some.injEq] at hd
    subst hd
    rfl
  | t, d, n :: dir, hd, w => by
    rw [at?_cons, Option.bind_eq_some_iff] at hd
    obtain ⟨c, hcn, hdir⟩ := hd
    have hm : (t.modify f (n :: dir)).child? n = some (c.modify f dir) := by
      rw [child?_modify_cons, hcn, Option.map_some, if_pos rfl]
    rw [List.cons_append, entry_cons_of_child hm, entry_modify_append hdir w]

/-- A change made at a folder's path leaves every path that does not pass through that
folder leading where it led. -/
theorem entry_modify_outside : ∀ {t d : Tree} {dir : List Name}, t.at? dir = some d →
    ∀ z, ¬ dir <+: z → (t.modify f dir).entry z = t.entry z
  | _, _, [], _, _, hz => absurd List.nil_prefix hz
  | t, _, n :: dir, _, [], _ => by rw [entry_nil, entry_nil]
  | t, d, n :: dir, hd, m :: z, hz => by
    rw [at?_cons, Option.bind_eq_some_iff] at hd
    obtain ⟨c, hcn, hdir⟩ := hd
    by_cases hmn : m = n
    · -- the path goes down the same folder: the change is further down, or off the path
      subst hmn
      have hm : (t.modify f (m :: dir)).child? m = some (c.modify f dir) := by
        rw [child?_modify_cons, hcn, Option.map_some, if_pos rfl]
      rw [entry_cons_of_child hm, entry_cons_of_child hcn]
      exact entry_modify_outside hdir z fun h => hz (List.cons_prefix_cons.mpr ⟨rfl, h⟩)
    · have hm : (t.modify f (n :: dir)).child? m = t.child? m := by
        rw [child?_modify_cons]
        cases t.child? m <;> simp [hmn]
      cases hcm : t.child? m with
      | some c' => rw [entry_cons_of_child (hm.trans hcm), entry_cons_of_child hcm]
      | none =>
        rw [entry_cons_of_no_child (hm.trans hcm), entry_cons_of_no_child hcm,
          files_modify_cons]

end Modify

theorem lookup_insertFolder {name m : Name} {d : Tree} {ds : List (Name × Tree)}
    (h : ds.lookup name = none) :
    (insertFolder name d ds).lookup m = if m = name then some d else ds.lookup m := by
  induction ds with
  | nil => simp [insertFolder, lookup_cons_eq]
  | cons e ds ih =>
    obtain ⟨k, c⟩ := e
    rw [lookup_cons_eq] at h
    have hk : name ≠ k := by
      intro hk
      rw [if_pos hk] at h
      exact absurd h (by simp)
    rw [if_neg hk] at h
    rw [insertFolder]
    split
    · rw [lookup_cons_eq, ih h, lookup_cons_eq]
      by_cases hm : m = k
      · rw [if_pos hm, if_neg (hm ▸ hk.symm), if_pos hm]
      · rw [if_neg hm, if_neg hm]
    · rw [lookup_cons_eq, lookup_cons_eq]

theorem entry_modify_of_adds {f : Tree → Tree} {t d : Tree} {dir : List Name} {name : Name}
    {e : Entry} (hd : t.at? dir = some d)
    (hadd : ∀ w, (f d).entry w = if w = [name] then some e else d.entry w) (z : List Name) :
    (t.modify f dir).entry z = if z = dir ++ [name] then some e else t.entry z := by
  by_cases hp : dir <+: z
  · obtain ⟨w, rfl⟩ := hp
    rw [entry_modify_append hd, entry_append hd, hadd]
    simp only [List.append_cancel_left_eq]
  · have hne : z ≠ dir ++ [name] := fun h => hp ⟨[name], h.symm⟩
    rw [entry_modify_outside hd z hp, if_neg hne]

theorem entry_insertFolder {d : Tree} {name : Name} (hc : d.child? name = none) :
    ∀ w, (Tree.node d.files (insertFolder name empty d.folders)).entry w =
      if w = [name] then some .folder else d.entry w
  | [] => by simp [entry_nil]
  | m :: w => by
    have hm : (Tree.node d.files (insertFolder name empty d.folders)).child? m =
        if m = name then some empty else d.child? m :=
      lookup_insertFolder hc
    by_cases hmn : m = name
    · subst hmn
      rw [if_pos rfl] at hm
      rw [entry_cons_of_child hm, entry_cons_of_no_child hc]
      cases w with
      | nil => simp [entry_nil]
      | cons k w => simp [entry, empty, child?, folders, files]
    · rw [if_neg hmn] at hm
      rw [if_neg (by simp [hmn])]
      cases hcm : d.child? m with
      | some c => rw [entry_cons_of_child (hm.trans hcm), entry_cons_of_child hcm]
      | none => rw [entry_cons_of_no_child (hm.trans hcm), entry_cons_of_no_child hcm]; rfl

theorem entry_appendFile {d : Tree} {name : Name} (hc : d.child? name = none) :
    ∀ w, (Tree.node (d.files ++ [name]) d.folders).entry w =
      if w = [name] then some .file else d.entry w
  | [] => by simp [entry_nil]
  | m :: w => by
    have hm : (Tree.node (d.files ++ [name]) d.folders).child? m = d.child? m := rfl
    cases hcm : d.child? m with
    | some c =>
      have hmn : m ≠ name := fun h => by rw [h, hc] at hcm; cases hcm
      rw [entry_cons_of_child (hm.trans hcm), entry_cons_of_child hcm]
      simp [hmn]
    | none =>
      rw [entry_cons_of_no_child (hm.trans hcm), entry_cons_of_no_child hcm]
      by_cases hmn : m = name <;> cases w <;> simp [files, hmn]

/-- Adding a folder of a name its folder does not hold makes the new path lead to a folder
and leaves every other path as it was. -/
theorem entry_addFolder {t d : Tree} {dir : List Name} {name : Name} (hd : t.at? dir = some d)
    (hn : d.holdsName name = false) (z : List Name) :
    (t.addFolder dir name).entry z = if z = dir ++ [name] then some .folder else t.entry z :=
  entry_modify_of_adds hd (entry_insertFolder (holdsName_eq_false.mp hn).1) z

/-- Adding a file of a name that is no folder of its folder makes the new path lead to a
file and leaves every other path as it was. -/
theorem entry_addFile {t d : Tree} {dir : List Name} {name : Name} (hd : t.at? dir = some d)
    (hn : d.child? name = none) (z : List Name) :
    (t.addFile dir name).entry z = if z = dir ++ [name] then some .file else t.entry z :=
  entry_modify_of_adds hd (entry_appendFile hn) z

/-! ## A file on the way

The way down to a path runs into a file when a name before the last is a file and no
folder.  `fileOnWay` finds the first such name; it depends only on which paths lead to
files and folders, and it moves along the path one name at a time, as the making of
folders does. -/

/-- Where the way down to the path `q` inside `t` runs into a file: the number of names
above that file, when a name of `q` before the last is a file there and no folder. -/
def fileOnWay : Tree → List Name → Option Nat
  | _, [] => none
  | _, [_] => none
  | t, n :: m :: q =>
    match t.child? n with
    | some c => (c.fileOnWay (m :: q)).map (· + 1)
    | none => if t.files.contains n then some 0 else none

/-- The way down to `q` runs into a file after `i` names exactly when the first `i + 1` names
of `q`, not all of it, lead to a file. -/
theorem fileOnWay_eq_some_iff (t : Tree) (q : List Name) (i : Nat) :
    t.fileOnWay q = some i ↔ i + 1 < q.length ∧ t.entry (q.take (i + 1)) = some .file := by
  fun_induction fileOnWay t q generalizing i with
  | case1 => simp
  | case2 => simp
  | case3 t n m q c hc ih =>
    cases i with
    | zero => simp [entry_cons_of_child hc, entry_nil]
    | succ i =>
      rw [Option.map_eq_some_iff]
      simp only [Nat.add_right_cancel_iff, exists_eq_right, ih, List.take_succ_cons,
        entry_cons_of_child hc, List.length_cons, Nat.add_lt_add_iff_right]
  | case4 t n m q hc hf =>
    cases i with
    | zero => simpa [entry_cons_of_no_child hc] using hf
    | succ i => simp [entry_cons_cons_of_no_child hc]
  | case5 t n m q hc hf =>
    cases i with
    | zero => simpa [entry_cons_of_no_child hc] using hf
    | succ i => simp [entry_cons_cons_of_no_child hc]

/-- Two folders whose paths lead to the same files have the same files on the way. -/
theorem fileOnWay_congr {s t : Tree} (h : ∀ a, s.entry a = some .file ↔ t.entry a = some .file)
    (q : List Name) : s.fileOnWay q = t.fileOnWay q := by
  apply Option.ext
  intro i
  rw [fileOnWay_eq_some_iff, fileOnWay_eq_some_iff, h]

theorem fileOnWay_eq_none_of_entry {t : Tree} {q : List Name} (h : t.entry q ≠ none) :
    t.fileOnWay q = none := by
  rw [Option.eq_none_iff_forall_ne_some]
  intro i hi
  obtain ⟨hlt, hfile⟩ := (fileOnWay_eq_some_iff t q i).mp hi
  have hfolder := entry_eq_folder_of_isPrefix h (List.take_prefix (i + 1) q) (by simp; omega)
  rw [hfolder] at hfile
  cases hfile

theorem fileOnWay_take_eq_some_iff (t : Tree) (q : List Name) (k i : Nat) :
    t.fileOnWay (q.take k) = some i ↔
      i + 1 < k ∧ i + 1 < q.length ∧ t.entry (q.take (i + 1)) = some .file := by
  rw [fileOnWay_eq_some_iff, List.length_take, List.take_take, Nat.lt_min]
  constructor
  · rintro ⟨⟨h1, h2⟩, h3⟩
    exact ⟨h1, h2, by rwa [Nat.min_eq_left h1.le] at h3⟩
  · rintro ⟨h1, h2, h3⟩
    exact ⟨⟨h1, h2⟩, by rwa [Nat.min_eq_left h1.le]⟩

theorem fileOnWay_take_succ_of_none {t : Tree} {q : List Name} {k : Nat}
    (h : t.entry (q.take k) = none) : t.fileOnWay (q.take (k + 1)) = t.fileOnWay (q.take k) := by
  apply Option.ext
  intro i
  rw [fileOnWay_take_eq_some_iff, fileOnWay_take_eq_some_iff]
  constructor
  · rintro ⟨h1, h2, h3⟩
    have hik : i + 1 ≠ k := by
      rintro rfl
      rw [h] at h3
      cases h3
    exact ⟨by omega, h2, h3⟩
  · rintro ⟨h1, h2, h3⟩
    exact ⟨by omega, h2, h3⟩

theorem fileOnWay_take_succ_of_folder {t : Tree} {q : List Name} {k : Nat}
    (h : t.entry (q.take k) = some .folder) : t.fileOnWay (q.take (k + 1)) = none := by
  rw [Option.eq_none_iff_forall_ne_some]
  intro i hi
  obtain ⟨h1, h2, h3⟩ := (fileOnWay_take_eq_some_iff t q (k + 1) i).mp hi
  rcases Nat.lt_or_eq_of_le (Nat.lt_succ_iff.mp h1) with hlt | rfl
  · -- a shorter prefix of the folder's path is a folder, not a file
    have hpre : q.take (i + 1) <+: q.take k := List.take_prefix_take_left hlt.le
    have hfolder := entry_eq_folder_of_isPrefix (by rw [h]; simp) hpre (by simp; omega)
    rw [hfolder] at h3
    cases h3
  · rw [h] at h3
    cases h3

theorem pos_of_entry_take_ne_folder {t : Tree} {q : List Name} {k : Nat}
    (h : t.entry (q.take k) ≠ some .folder) : 0 < k :=
  Nat.pos_of_ne_zero fun hk => h (by rw [hk, List.take_zero, entry_nil])

theorem fileOnWay_take_succ_of_file {t : Tree} {q : List Name} {k : Nat} (hk : k < q.length)
    (h : t.entry (q.take k) = some .file) : t.fileOnWay (q.take (k + 1)) = some (k - 1) := by
  have hk0 : 0 < k := pos_of_entry_take_ne_folder (by rw [h]; simp)
  rw [fileOnWay_take_eq_some_iff, Nat.sub_add_cancel hk0]
  exact ⟨by omega, hk, h⟩

end Tree

end StubGen.Folder
