/-
# `StubGen.Proofs.Folder.Locate` — following a relative path of real names

A path below a root whose names are such as a file system gives its entries (`EntryName`:
some bytes, no slash and no zero byte among them, neither `.` nor `..`, and no longer than
`nameLimit`), read back from their bytes, passes the checks made before a path is followed
when its real path is short enough (`Root.check_decode`), and is then followed from the
root name by name (`Tree.locate_decode`).  With the root a folder `x` of the system:

* the path leads to an entry, as `Tree.reaches` asks, exactly when it leads to one in `x`
  (`Tree.reaches_decode_iff`);
* making it as a folder adds it when the names above it lead to a folder of `x` that does
  not hold its last name (`Tree.makeFolder_decode_of_folder`), and fails, saying that it
  is no folder, when the names above it lead to a file (`Tree.makeFolder_decode_of_file`).

Whatever path is followed, `.`, `..` and names from the top included, the walk stays on
folders of the system: every trail it passes through is a chain of folders from the top
(`Trail.Real`), so that the path of the trail it ends on leads to the folder at its end
(`Tree.locate_real`, `Trail.Real.at?`).
-/
import StubGen.Proofs.Folder.Entry
import StubGen.Proofs.Plan

namespace StubGen.Folder

open Text (Point decode)

/-- A name that a file system can give an entry: some bytes, neither a slash nor the zero
byte among them, neither `.` nor `..`, and no longer than `nameLimit` bytes. -/
def EntryName (n : Name) : Prop :=
  Plain n ∧ (0 : UInt8) ∉ n ∧ n ≠ dot ∧ n ≠ dotDot ∧ n.length ≤ nameLimit

instance (n : Name) : Decidable (EntryName n) :=
  inferInstanceAs (Decidable ((n ≠ [] ∧ (0x2F : UInt8) ∉ n) ∧ _))

/-- The real path of the stored path `q` below the root is shorter than the system
accepts. -/
def Root.Fits (r : Root) (q : List Name) : Prop :=
  r.size + ([0x2F].intercalate q).length < pathLimit

instance (r : Root) (q : List Name) : Decidable (r.Fits q) :=
  inferInstanceAs (Decidable (_ < _))

theorem EntryName.length_le {n : Name} (h : EntryName n) : n.length ≤ nameLimit :=
  h.2.2.2.2

theorem EntryName.isHere_eq_false {n : Name} (h : EntryName n) : isHere n = false := by
  obtain ⟨⟨hne, -⟩, -, hdot, hdotDot, -⟩ := h
  simp [isHere, hne, hdot, hdotDot]

theorem intercalate_take_isPrefix (sep : List UInt8) (q : List Name) (k : Nat) :
    sep.intercalate (q.take k) <+: sep.intercalate q := by
  induction q generalizing k with
  | nil => simp
  | cons n q ih =>
    cases k with
    | zero => simp
    | succ k =>
      rw [List.take_succ_cons]
      cases q with
      | nil => simp
      | cons m q =>
        cases k with
        | zero => simp [List.intercalate_cons_cons]
        | succ k =>
          rw [List.take_succ_cons, List.intercalate_cons_cons, List.intercalate_cons_cons]
          refine (List.prefix_append_right_inj _).mpr ?_
          rw [← List.take_succ_cons]
          exact ih (k + 1)

theorem Root.Fits.take {r : Root} {q : List Name} (h : r.Fits q) (k : Nat) : r.Fits (q.take k) := by
  have hle := (intercalate_take_isPrefix [0x2F] q k).length_le
  unfold Root.Fits at h ⊢
  omega

/-! ## The checks on a path of real names

A path of names read back from bytes is stored as its names joined by slashes, so the
checks on its encoding and its zero bytes pass, and it passes the length check when its
real path is short enough. -/

section Checks

variable {q : List Name}

theorem Path.isAbsolute_decode (hq : ∀ n ∈ q, Plain n) : Path.isAbsolute (q.map decode) = false := by
  have hseg : ∀ w ∈ q.map decode, Segment w := by
    intro w hw
    obtain ⟨n, hn, rfl⟩ := List.mem_map.mp hw
    exact (hq n hn).segment
  simpa [Path.isAbsolute] using Path.head?_text hseg

theorem Path.encode_text_decode (i : Nat) (q : List Name) :
    Text.encode Text.escapesByte i (Path.text (q.map decode)) = .ok ([0x2F].intercalate q) := by
  induction q generalizing i with
  | nil => rw [List.map_nil, Path.text_nil, Text.encode, List.intercalate_nil]
  | cons n q ih =>
    cases q with
    | nil => simpa [Path.text] using Text.encode_decode i n
    | cons m q =>
      rw [List.map_cons, List.map_cons, Path.text_cons_cons, Text.encode_append (Text.encode_decode i n),
        Text.encode, ← List.map_cons, ih, List.intercalate_cons_cons,
        show Text.utf8 '/' = [0x2F] by decide, List.append_assoc]
      rfl

theorem Path.any_null_decode (hq : ∀ n ∈ q, (0 : UInt8) ∉ n) :
    (q.map decode).any (·.contains (.char (Char.ofNat 0))) = false := by
  rw [List.any_eq_false]
  intro w hw hnul
  obtain ⟨n, hn, rfl⟩ := List.mem_map.mp hw
  have h0 := Text.mem_decode_ascii (c := Char.ofNat 0) (by decide) (by simpa using hnul)
  exact hq n hn h0

theorem Path.mapM_nameBytes_decode (q : List Name) :
    (q.map decode).mapM (fun n => (Text.nameBytes n).mapError unstorable) = .ok q := by
  induction q with
  | nil => rfl
  | cons n q ih =>
    rw [List.map_cons, List.mapM_cons, ih, Text.nameBytes, Text.encode_decode]
    rfl

/-- A path of real names, read back from bytes and short enough, passes the checks and is
stored as its names. -/
theorem Root.check_decode {r : Root} (hq : ∀ n ∈ q, EntryName n) (hfit : r.Fits q) :
    r.check (q.map decode) = .ok q := by
  have hoff : r.offset (q.map decode) = r.size := by
    rw [Root.offset, Path.isAbsolute_decode fun n hn => (hq n hn).1]
    rfl
  have hnul := Path.any_null_decode fun n hn => (hq n hn).2.1
  have hlen : ¬ pathLimit ≤ r.offset (q.map decode) + ([0x2F].intercalate q).length := by
    rw [hoff]
    exact Nat.not_le.mpr hfit
  rw [Root.check, Path.encode_text_decode]
  simp only [Except.mapError, bind, Except.bind, hnul, hlen, Bool.false_eq_true, if_false]
  exact Path.mapM_nameBytes_decode q

end Checks

/-! ## Following the names

The walk from the top keeps a trail, the folders it passed with their names; walking
along a path of folders ends at the folder of the path, with the path added to the
trail. -/

theorem trailPath_cons (n : Name) (c : Tree) (trail : Trail) :
    trailPath ((n, c) :: trail) = trailPath trail ++ [n] := by
  simp [trailPath]

/-- One step of the walk from the top along a path: into the folder of the name, when there
is one. -/
def trailStep (acc : Trail × Tree) (name : Name) : Trail × Tree :=
  (acc.2.child? name).elim acc fun c => ((name, c) :: acc.1, c)

theorem Tree.trailTo_eq_foldl (t : Tree) (p : List Name) :
    t.trailTo p = (p.foldl trailStep ([], t)).1 := by
  unfold Tree.trailTo trailStep
  congr
  funext acc name
  cases acc.2.child? name <;> rfl

theorem trailStep_of_child {trail : Trail} {cur c : Tree} {n : Name} (h : cur.child? n = some c) :
    trailStep (trail, cur) n = ((n, c) :: trail, c) := by
  show (cur.child? n).elim (trail, cur) (fun c => ((n, c) :: trail, c)) = _
  rw [h]
  rfl

theorem foldl_trailStep {t x : Tree} {p : List Name} :
    ∀ (trail : Trail) (cur : Tree), folderAt t trail = cur → cur.at? p = some x →
      folderAt t (p.foldl trailStep (trail, cur)).1 = x ∧
        trailPath (p.foldl trailStep (trail, cur)).1 = trailPath trail ++ p := by
  induction p with
  | nil =>
    intro trail cur hcur hp
    rw [Tree.at?_nil, Option.some.injEq] at hp
    exact ⟨hcur.trans hp, (List.append_nil _).symm⟩
  | cons n p ih =>
    intro trail cur hcur hp
    rw [Tree.at?_cons, Option.bind_eq_some_iff] at hp
    obtain ⟨c, hc, hp⟩ := hp
    rw [List.foldl_cons, trailStep_of_child hc]
    obtain ⟨h1, h2⟩ := ih ((n, c) :: trail) c rfl hp
    exact ⟨h1, by rw [h2, trailPath_cons, List.append_assoc, List.singleton_append]⟩

theorem Tree.trailTo_of_at? {t x : Tree} {p : List Name} (h : t.at? p = some x) :
    folderAt t (t.trailTo p) = x ∧ trailPath (t.trailTo p) = p := by
  rw [trailTo_eq_foldl]
  obtain ⟨h1, h2⟩ := foldl_trailStep [] t rfl h
  exact ⟨h1, h2.trans (List.nil_append p)⟩

/-! ## Trails of the system

A trail of the system is one whose every name is a folder of the folder before it.
Following names keeps such a trail, so whatever is located below a root ends on one, and
its path leads to the folder at its end. -/

/-- A trail of the system: each name on it is a folder of the folder before it, from the top. -/
def Trail.Real (t : Tree) : Trail → Prop
  | [] => True
  | (n, c) :: trail => (folderAt t trail).child? n = some c ∧ Trail.Real t trail

namespace Trail

variable {t : Tree}

theorem Real.at? : ∀ {trail : Trail}, Real t trail → t.at? (trailPath trail) = some (folderAt t trail)
  | [], _ => Tree.at?_nil t
  | (n, c) :: trail, ⟨hc, hreal⟩ => by
    rw [trailPath_cons, Tree.at?_append (Real.at? hreal), Tree.at?_cons, hc, Option.bind_some,
      Tree.at?_nil]
    rfl

theorem Real.up : ∀ {trail : Trail}, Real t trail → Real t trail.up
  | [], h => h
  | _ :: _, ⟨_, h⟩ => h

end Trail

theorem foldl_trailStep_real {t : Tree} :
    ∀ (p : List Name) (trail : Trail) (cur : Tree), Trail.Real t trail → folderAt t trail = cur →
      Trail.Real t (p.foldl trailStep (trail, cur)).1 ∧
        folderAt t (p.foldl trailStep (trail, cur)).1 = (p.foldl trailStep (trail, cur)).2
  | [], trail, cur, hreal, hcur => ⟨hreal, hcur⟩
  | n :: p, trail, cur, hreal, hcur => by
    rw [List.foldl_cons]
    cases hc : cur.child? n with
    | none =>
      have hstep : trailStep (trail, cur) n = (trail, cur) := by
        show (cur.child? n).elim (trail, cur) _ = _
        rw [hc]
        rfl
      rw [hstep]
      exact foldl_trailStep_real p trail cur hreal hcur
    | some c =>
      rw [trailStep_of_child hc]
      exact foldl_trailStep_real p ((n, c) :: trail) c ⟨hcur ▸ hc, hreal⟩ rfl

theorem Tree.trailTo_real (t : Tree) (p : List Name) : Trail.Real t (t.trailTo p) := by
  rw [Tree.trailTo_eq_foldl]
  exact (foldl_trailStep_real p [] t trivial rfl).1

section Follow

variable {t : Tree} {here : Trail} {n : Name}

theorem Tree.follow_cons_cons_of_child (hn : EntryName n) {c : Tree}
    (hc : (folderAt t here).child? n = some c) (m : Name) (q : List Name) :
    t.follow here (n :: m :: q) = t.follow ((n, c) :: here) (m :: q) := by
  obtain ⟨⟨hne, -⟩, -, hdot, hdotDot, hlen⟩ := hn
  rw [Tree.follow.eq_3 _ _ _ _ (List.cons_ne_nil m q)]
  simp [hne, hdot, hdotDot, Nat.not_lt.mpr hlen, hc]

theorem Tree.follow_cons_cons_of_no_child (hn : EntryName n)
    (hc : (folderAt t here).child? n = none) (m : Name) (q : List Name) :
    t.follow here (n :: m :: q) =
      .error (if (folderAt t here).files.contains n then .throughFile else .missing) := by
  obtain ⟨⟨hne, -⟩, -, hdot, hdotDot, hlen⟩ := hn
  rw [Tree.follow.eq_3 _ _ _ _ (List.cons_ne_nil m q)]
  simp only [hne, hdot, hdotDot, decide_false, Bool.or_false, Bool.false_eq_true, if_false,
    Nat.not_lt.mpr hlen, hc]
  split <;> rfl

theorem Tree.follow_append_of_at? {a rest : List Name} (ha : ∀ n ∈ a, EntryName n)
    (hrest : rest ≠ []) :
    ∀ (here : Trail) {e : Tree}, (folderAt t here).at? a = some e →
      ∃ here', folderAt t here' = e ∧ trailPath here' = trailPath here ++ a ∧
        t.follow here (a ++ rest) = t.follow here' rest := by
  induction a with
  | nil =>
    intro here e h
    rw [at?_nil, Option.some.injEq] at h
    exact ⟨here, h, (List.append_nil _).symm, rfl⟩
  | cons n a ih =>
    intro here e h
    rw [at?_cons, Option.bind_eq_some_iff] at h
    obtain ⟨c, hc, ha'⟩ := h
    obtain ⟨m, q, hmq⟩ : ∃ m q, a ++ rest = m :: q :=
      List.exists_cons_of_ne_nil (by simp [hrest])
    obtain ⟨here', h1, h2, h3⟩ := ih (fun k hk => ha k (List.mem_cons_of_mem _ hk)) ((n, c) :: here) ha'
    refine ⟨here', h1, by rw [h2, trailPath_cons, List.append_assoc, List.singleton_append], ?_⟩
    rw [List.cons_append, hmq, follow_cons_cons_of_child (ha n List.mem_cons_self) hc, ← hmq, h3]

theorem Tree.follow_append_singleton {a : List Name} (ha : ∀ n ∈ a, EntryName n) {e : Tree}
    (h : (folderAt t here).at? a = some e) (last : Name) :
    ∃ here', folderAt t here' = e ∧ trailPath here' = trailPath here ++ a ∧
      t.follow here (a ++ [last]) = .ok (here', last) := by
  obtain ⟨here', h1, h2, h3⟩ := follow_append_of_at? ha (List.cons_ne_nil last []) here h
  exact ⟨here', h1, h2, by rw [h3, Tree.follow]⟩

theorem Tree.follow_error_of_at? {a : List Name} (ha : ∀ n ∈ a, EntryName n) (last : Name) :
    ∀ (here : Trail), (folderAt t here).at? a = none → ∃ b, t.follow here (a ++ [last]) = .error b := by
  induction a with
  | nil =>
    intro here h
    rw [at?_nil] at h
    cases h
  | cons n a ih =>
    intro here h
    obtain ⟨m, q, hmq⟩ : ∃ m q, a ++ [last] = m :: q := List.exists_cons_of_ne_nil (by simp)
    rw [List.cons_append, hmq]
    cases hc : (folderAt t here).child? n with
    | some c =>
      rw [follow_cons_cons_of_child (ha n List.mem_cons_self) hc, ← hmq]
      rw [at?_cons, hc, Option.bind_some] at h
      exact ih (fun k hk => ha k (List.mem_cons_of_mem _ hk)) ((n, c) :: here) h
    | none => exact ⟨_, follow_cons_cons_of_no_child (ha n List.mem_cons_self) hc m q⟩

end Follow

theorem Tree.follow_real {t : Tree} :
    ∀ {here : Trail} {names : List Name} {trail : Trail} {last : Name},
      t.follow here names = .ok (trail, last) → Trail.Real t here → Trail.Real t trail := by
  intro here names
  -- by the walk's own cases: an empty name and `.` stay, `..` drops the last folder, and a
  -- step into a folder adds a child of the last one; the other cases fail
  fun_induction t.follow here names with
  | case1 | case2 =>
    intro trail last h hreal
    cases h
    exact hreal
  | case3 _ _ _ _ _ ih => exact ih
  | case4 _ _ _ _ ih => exact fun h hreal => ih h (Trail.Real.up hreal)
  | case5 | case7 | case8 => intro trail last h; cases h
  | case6 here n _ _ _ _ _ _ c hc =>
    rename_i ih
    exact fun h hreal => ih h ⟨hc, hreal⟩

theorem Except.mapError_eq_ok {ε ε' α : Type} {x : Except ε α} {f : ε → ε'} {a : α} :
    x.mapError f = .ok a ↔ x = .ok a := by
  cases x <;> simp [Except.mapError]

/-- A path that is located below a root ends on a trail of the system. -/
theorem Tree.locate_real {t : Tree} {r : Root} {names : Path} {trail : Trail} {last : Name}
    (h : t.locate r names = .ok (trail, last)) : Trail.Real t trail := by
  rw [Tree.locate, Except.bind_eq_ok] at h
  obtain ⟨stored, -, hfollow⟩ := h
  -- the walk starts at the top or at the deepest folder of the root, both trails of the system
  have hstart : Trail.Real t (t.start r names) := by
    unfold Tree.start
    split
    · trivial
    · exact Tree.trailTo_real t r.path
  exact Tree.follow_real (Except.mapError_eq_ok.mp hfollow) hstart

/-! ## Locating, reaching and making a folder below a root

For a path of real names below a root, locating follows the names from the root, so
reaching and making a folder are read off what the names lead to inside the root: a
folder of the root that does not hold the last name gets it, and a file on the way stops
the making. -/

section Root

variable {t x : Tree} {r : Root} {q : List Name}

/-- A path of real names below a root is followed from the root. -/
theorem Tree.locate_decode (hq : ∀ n ∈ q, EntryName n) (hfit : r.Fits q) :
    t.locate r (q.map decode) =
      (t.follow (t.trailTo r.path) q).mapError (·.fault (r.show (q.map decode))) := by
  rw [Tree.locate, Root.check_decode hq hfit, Tree.start,
    Path.isAbsolute_decode fun n hn => (hq n hn).1]
  rfl

/-- A path of real names reaches an entry exactly when it leads to one inside the root. -/
theorem Tree.reaches_decode_iff (hx : t.at? r.path = some x) (hq : ∀ n ∈ q, EntryName n)
    (hfit : r.Fits q) : t.reaches r (q.map decode) = true ↔ x.entry q ≠ none := by
  obtain ⟨hfold, -⟩ := trailTo_of_at? hx
  rw [Tree.reaches, locate_decode hq hfit]
  obtain rfl | ⟨a, last, rfl⟩ := List.eq_nil_or_concat q
  · simp [Tree.follow, isHere, Except.mapError, entry_nil]
  · rw [List.concat_eq_append] at hq ⊢
    have ha : ∀ n ∈ a, EntryName n := fun n hn => hq n (List.mem_append_left _ hn)
    have hlast := hq last (List.mem_append_right _ List.mem_cons_self)
    cases hxa : x.at? a with
    | some e =>
      obtain ⟨here', h1, -, h3⟩ := follow_append_singleton ha (hfold ▸ hxa) last
      rw [h3, entry_append hxa, ← h1]
      simp only [Except.mapError, hlast.isHere_eq_false, hlast.length_le, decide_true,
        Bool.true_and, Bool.false_or]
      rw [ne_eq, ← holdsName_eq_false_iff_entry, Bool.not_eq_false]
    | none =>
      obtain ⟨b, hb⟩ := follow_error_of_at? ha last _ (hfold ▸ hxa)
      rw [hb]
      simp only [Except.mapError, Bool.false_eq_true, false_iff, not_not]
      by_contra hne
      have hfolder := entry_eq_folder_of_append hne (List.cons_ne_nil last [])
      rw [entry_eq_folder_iff, hxa] at hfolder
      exact absurd hfolder (by simp)

/-- Making a folder whose names above lead to a folder of the root that does not hold its
last name adds it there. -/
theorem Tree.makeFolder_decode_of_folder (hx : t.at? r.path = some x) {a : List Name} {n : Name}
    {e : Tree} (ha : x.at? a = some e) (hn : e.holdsName n = false)
    (hq : ∀ m ∈ a ++ [n], EntryName m) (hfit : r.Fits (a ++ [n])) :
    t.makeFolder r ((a ++ [n]).map decode) = .ok (t.addFolder (r.path ++ a) n) := by
  obtain ⟨hfold, hpath⟩ := trailTo_of_at? hx
  have hn' := hq n (List.mem_append_right _ List.mem_cons_self)
  obtain ⟨here', h1, h2, h3⟩ :=
    follow_append_singleton (fun m hm => hq m (List.mem_append_left _ hm)) (hfold ▸ ha) n
  rw [Tree.makeFolder, locate_decode hq hfit, h3]
  simp only [Except.mapError, bind, Except.bind, hn'.isHere_eq_false, Nat.not_lt.mpr hn'.length_le,
    h1, hn, h2, hpath, Bool.false_eq_true, if_false]

/-- Making a folder whose names above lead to a file fails: the way is no folder. -/
theorem Tree.makeFolder_decode_of_file (hx : t.at? r.path = some x) {p : List Name} {m : Name}
    (hp : x.entry p = some .file) (hq : ∀ n ∈ p ++ [m], EntryName n) (hfit : r.Fits (p ++ [m])) :
    t.makeFolder r ((p ++ [m]).map decode) = .error (.notFolder (r.show ((p ++ [m]).map decode))) := by
  obtain ⟨hfold, -⟩ := trailTo_of_at? hx
  obtain ⟨a, n, e, rfl, ha, hc, hf⟩ := (entry_eq_file_iff x p).mp hp
  have hq' : ∀ k ∈ a ++ [n, m], EntryName k := by simpa using hq
  obtain ⟨here', h1, -, h3⟩ := follow_append_of_at?
    (fun k hk => hq' k (List.mem_append_left _ hk)) (List.cons_ne_nil n [m]) _ (hfold ▸ ha)
  have hn := hq' n (List.mem_append_right _ List.mem_cons_self)
  have hstop : t.follow here' [n, m] = .error .throughFile := by
    rw [follow_cons_cons_of_no_child hn (h1 ▸ hc), if_pos (h1 ▸ List.contains_iff_mem.mpr hf)]
  rw [Tree.makeFolder, locate_decode hq hfit, List.append_assoc, List.singleton_append, h3, hstop]
  rfl

end Root

end StubGen.Folder
