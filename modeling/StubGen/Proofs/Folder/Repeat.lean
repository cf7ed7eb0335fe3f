/-
# `StubGen.Proofs.Folder.Repeat` — making the folders of a scan, in any order

A scan makes its folders again below the source root `r`, a folder `x` of the system `t`,
key by key: a key that leads to an entry already is left alone, and any other is made with
all its missing parents.  For keys of real names (`EntryName`) whose real paths are short
enough, with room for the calls that making their parents opens
(`Tree.repeatFolders_outcome`):

* nothing stops the making, and the system keeps exactly its files;
* the folders afterwards are those before and, for each key that leads to nothing and meets
  no file on its way down, the key and every path above it below the root;
* a key that meets a file on its way (`Tree.fileOnWay`) is reported once, as no folder,
  under the path one name below that file, the shallowest one that is missing; no other
  key is reported;
* so neither the folders nor the reports, up to their order, depend on the order of the
  keys.

One key is made by `Tree.makeFoldersUpTo`, which makes the parent first when it leads to
nothing; its outcome (`Tree.makeFoldersUpTo_decode`) is proved by induction on the number
of names.  The key loop (`Tree.repeatFolders_decode`) is proved for any system that extends
the first by folders (`Tree.Extends`), so that the induction on the keys carries what the
keys before have made.
-/
import StubGen.Proofs.Folder.Locate

namespace StubGen.Folder

open Text (decode lit)

/-- The system `s` extends the system `t` by the folders at the paths `new`: it has the
same files, and a folder exactly where `t` has one or `new` puts one. -/
structure Tree.Extends (t s : Tree) (new : List Name → Prop) : Prop where
  folder : ∀ z, s.entry z = some .folder ↔ t.entry z = some .folder ∨ new z
  file : ∀ z, s.entry z = some .file ↔ t.entry z = some .file

namespace Tree.Extends

variable {t s u : Tree} {N M : List Name → Prop}

theorem refl (t : Tree) : t.Extends t fun _ => False :=
  ⟨fun z => by simp, fun _ => Iff.rfl⟩

theorem trans (h₁ : t.Extends s N) (h₂ : s.Extends u M) : t.Extends u fun z => N z ∨ M z :=
  ⟨fun z => by rw [h₂.folder, h₁.folder, or_assoc], fun z => (h₂.file z).trans (h₁.file z)⟩

theorem congr (h : t.Extends s N)
    (hNM : ∀ z, t.entry z = some .folder ∨ N z ↔ t.entry z = some .folder ∨ M z) :
    t.Extends s M :=
  ⟨fun z => (h.folder z).trans (hNM z), h.file⟩

theorem entry_of_ne_none (h : t.Extends s N) {z : List Name} (hz : t.entry z ≠ none) :
    s.entry z = t.entry z := by
  cases ht : t.entry z with
  | none => exact absurd ht hz
  | some e =>
    cases e with
    | folder => exact (h.folder z).mpr (.inl ht)
    | file => exact (h.file z).mpr ht

theorem entry_eq_none (h : t.Extends s N) {z : List Name} (hz : s.entry z = none) :
    t.entry z = none := by
  by_contra hne
  rw [h.entry_of_ne_none hne] at hz
  exact hne hz

theorem at? (h : t.Extends s N) {p : List Name} {x : Tree} (hx : t.at? p = some x) :
    ∃ x', s.at? p = some x' :=
  exists_at?_of_entry ((h.folder p).mpr (.inl ((entry_eq_folder_iff t p).mpr (by rw [hx]; rfl))))

/-- A folder meets the same files on the way down before and after. -/
theorem fileOnWay (h : t.Extends s N) {p : List Name} {x x' : Tree} (hx : t.at? p = some x)
    (hx' : s.at? p = some x') (q : List Name) : x'.fileOnWay q = x.fileOnWay q :=
  Tree.fileOnWay_congr (fun a => by rw [← entry_append hx', ← entry_append hx, h.file]) q

theorem entry_of_not_new (h : t.Extends s N) {z : List Name} (hz : ¬ N z) :
    s.entry z = t.entry z :=
  entry_eq_of_iff (by rw [h.folder]; simp [hz]) (h.file z)

theorem entry_eq (h₁ : t.Extends s N) (h₂ : t.Extends u M) (hNM : ∀ z, N z ↔ M z)
    (z : List Name) : s.entry z = u.entry z :=
  entry_eq_of_iff (by rw [h₁.folder, h₂.folder, hNM]) (by rw [h₁.file, h₂.file])

end Tree.Extends

theorem Tree.extends_addFolder {t d : Tree} {dir : List Name} {name : Name}
    (hd : t.at? dir = some d) (hn : d.holdsName name = false) :
    t.Extends (t.addFolder dir name) (· = dir ++ [name]) := by
  have hnew : t.entry (dir ++ [name]) = none := by
    rw [entry_append hd]
    exact holdsName_eq_false_iff_entry.mp hn
  refine ⟨fun z => ?_, fun z => ?_⟩
  · rw [entry_addFolder hd hn]
    by_cases hz : z = dir ++ [name] <;> simp [hz]
  · rw [entry_addFolder hd hn]
    by_cases hz : z = dir ++ [name]
    · simp [hz, hnew]
    · simp [hz]

/-! ## One step of making a folder with its parents

Making a folder with its parents first makes the parent when it leads to nothing, then
the folder; a fault at the parent other than an existing entry stops the making. -/

section Step

variable {t : Tree} {r : Root} {names : Path} {depth k : Nat}

theorem Tree.makeFoldersUpTo_succ_of_reaches (hd : CallDepth.fits (depth + 2) = true)
    (hparent : k = 0 ∨ t.reaches r (names.take k) = true) :
    t.makeFoldersUpTo r false names depth (k + 1) =
      match t.makeFolder r (names.take (k + 1)) with
      | .ok made => (made, none)
      | .error f => (t, some f) := by
  have hcond : (0 < k && !t.reaches r (names.take k)) = false := by
    rcases hparent with rfl | h
    · rfl
    · simp [h]
  rw [Tree.makeFoldersUpTo, CallDepth.enter, if_pos hd, hcond]
  rfl

theorem Tree.makeFoldersUpTo_succ_of_stop (hd : CallDepth.fits (depth + 2) = true) (hk : 0 < k)
    (hparent : t.reaches r (names.take k) = false) {made : Tree} {f : Fault}
    (hrec : t.makeFoldersUpTo r false names (depth + 1) k = (made, some f))
    (hf : ∀ p, f ≠ .fileExists p) :
    t.makeFoldersUpTo r false names depth (k + 1) = (made, some f) := by
  have hcond : (0 < k && !t.reaches r (names.take k)) = true := by simp [hk, hparent]
  rw [Tree.makeFoldersUpTo, CallDepth.enter, if_pos hd, hcond, if_pos rfl, hrec]
  cases f with
  | fileExists p => exact absurd rfl (hf p)
  | _ => rfl

theorem Tree.makeFoldersUpTo_succ_of_made (hd : CallDepth.fits (depth + 2) = true) (hk : 0 < k)
    (hparent : t.reaches r (names.take k) = false) {made : Tree}
    (hrec : t.makeFoldersUpTo r false names (depth + 1) k = (made, none)) :
    t.makeFoldersUpTo r false names depth (k + 1) =
      match made.makeFolder r (names.take (k + 1)) with
      | .ok made' => (made', none)
      | .error f => (made, some f) := by
  have hcond : (0 < k && !t.reaches r (names.take k)) = true := by simp [hk, hparent]
  rw [Tree.makeFoldersUpTo, CallDepth.enter, if_pos hd, hcond, if_pos rfl, hrec]
  dsimp only
  cases made.makeFolder r (names.take (k + 1)) <;> rfl

end Step

/-! ## Making one key

A key is made one name at a time.  With the first `k` names at a folder of the root, the
first `k + 1` are made and the system extends by every path at or above them that was no
folder; with the first `k` at a file, the making stops there, saying the way is no folder,
and changes nothing. -/

section Key

variable {t x : Tree} {r : Root} {q : List Name} {k : Nat}

theorem exists_prefix_take_succ_iff (p : List Name) (hk : k < q.length) (z : List Name) :
    (∃ a, a <+: q.take (k + 1) ∧ z = p ++ a) ↔
      (∃ a, a <+: q.take k ∧ z = p ++ a) ∨ z = p ++ q.take (k + 1) := by
  rw [List.take_succ_eq_append_getElem hk]
  constructor
  · rintro ⟨a, ha, rfl⟩
    rcases List.prefix_concat_iff.mp ha with rfl | ha
    · exact .inr rfl
    · exact .inl ⟨a, ha, rfl⟩
  · rintro (⟨a, ha, rfl⟩ | rfl)
    · exact ⟨a, ha.trans (List.prefix_append _ _), rfl⟩
    · exact ⟨_, List.prefix_refl _, rfl⟩

theorem not_exists_prefix_take (p : List Name) (hk : k < q.length) :
    ¬ ∃ a, a <+: q.take k ∧ p ++ q.take (k + 1) = p ++ a := by
  rintro ⟨a, ha, hz⟩
  have hlen := congrArg List.length (List.append_cancel_left hz)
  have hle := ha.length_le
  simp only [List.length_take] at hlen hle
  omega

theorem Tree.Extends.prefixes_take_succ {s : Tree}
    (h : t.Extends s (· = r.path ++ q.take (k + 1))) (hx : t.at? r.path = some x)
    (hp : x.entry (q.take k) = some .folder) (hk : k < q.length) :
    t.Extends s fun z => ∃ a, a <+: q.take (k + 1) ∧ z = r.path ++ a := by
  refine h.congr fun z => ?_
  rw [exists_prefix_take_succ_iff _ hk]
  constructor
  · rintro (h | rfl)
    · exact .inl h
    · exact .inr (.inr rfl)
  · rintro (h | ⟨a, ha, rfl⟩ | rfl)
    · exact .inl h
    · -- the paths above are folders already
      exact .inl (by rw [entry_append hx]; exact entry_eq_folder_of_prefix_folder hp ha)
    · exact .inr rfl

section Names

variable (hq : ∀ n ∈ q, EntryName n) (hfit : r.Fits q)
include hq hfit

theorem entryName_fits_take_succ (hk : k < q.length) :
    (∀ n ∈ q.take k ++ [q[k]], EntryName n) ∧ r.Fits (q.take k ++ [q[k]]) := by
  rw [← List.take_succ_eq_append_getElem hk]
  exact ⟨fun n hn => hq n (List.mem_of_mem_take hn), hfit.take (k + 1)⟩

theorem Tree.makeFolder_take_succ_of_folder (hx : t.at? r.path = some x) (hk : k < q.length)
    (hp : x.entry (q.take k) = some .folder) (hnone : x.entry (q.take (k + 1)) = none) :
    ∃ t', t.makeFolder r ((q.map decode).take (k + 1)) = .ok t' ∧
      t.Extends t' (· = r.path ++ q.take (k + 1)) := by
  have htake := List.take_succ_eq_append_getElem hk
  obtain ⟨e, he⟩ := exists_at?_of_entry hp
  have hnew : e.holdsName q[k] = false := by
    rw [holdsName_eq_false_iff_entry, ← entry_append he, ← htake]
    exact hnone
  obtain ⟨hq', hfit'⟩ := entryName_fits_take_succ hq hfit hk
  rw [← List.map_take, htake, makeFolder_decode_of_folder hx he hnew hq' hfit']
  refine ⟨_, rfl, (extends_addFolder ((at?_append hx (q.take k)).trans he) hnew).congr fun z => ?_⟩
  rw [List.append_assoc]

theorem Tree.makeFolder_take_succ_of_file (hx : t.at? r.path = some x) (hk : k < q.length)
    (hp : x.entry (q.take k) = some .file) :
    t.makeFolder r ((q.map decode).take (k + 1)) =
      .error (.notFolder (r.show ((q.take (k + 1)).map decode))) := by
  obtain ⟨hq', hfit'⟩ := entryName_fits_take_succ hq hfit hk
  rw [← List.map_take, List.take_succ_eq_append_getElem hk]
  exact makeFolder_decode_of_file hx hp hq' hfit'

/-- Making the first `k` names of a key below the root, where they lead to nothing: when a
file stands on the way, the making stops at the path one name below that file, saying that
the way is no folder, and changes nothing; otherwise it adds that path and every path above
it below the root. -/
theorem Tree.makeFoldersUpTo_decode (k : Nat) :
    ∀ {t x : Tree} {depth : Nat}, t.at? r.path = some x → k ≤ q.length →
      x.entry (q.take k) = none → CallDepth.fits (depth + k + 1) = true →
      (∀ i, x.fileOnWay (q.take k) = some i →
        t.makeFoldersUpTo r false (q.map decode) depth k =
          (t, some (.notFolder (r.show ((q.take (i + 2)).map decode))))) ∧
      (x.fileOnWay (q.take k) = none → ∃ t', t.makeFoldersUpTo r false (q.map decode) depth k =
        (t', none) ∧ t.Extends t' fun z => ∃ a, a <+: q.take k ∧ z = r.path ++ a) := by
  induction k with
  | zero =>
    intro t x depth hx _ hnone
    rw [List.take_zero, entry_nil] at hnone
    cases hnone
  | succ k ih =>
    intro t x depth hx hk hnone hroom
    have hkq : k < q.length := hk
    have hd : CallDepth.fits (depth + 2) = true := CallDepth.fits_of_le (by omega) hroom
    have hreach : t.reaches r ((q.map decode).take k) = true ↔ x.entry (q.take k) ≠ none := by
      rw [← List.map_take]
      exact reaches_decode_iff hx (fun n hn => hq n (List.mem_of_mem_take hn)) (hfit.take k)
    -- the parent: a folder, a file, or nothing, to be made first
    cases hp : x.entry (q.take k) with
    | some e =>
      have hparent : k = 0 ∨ t.reaches r ((q.map decode).take k) = true :=
        .inr (hreach.mpr (by simp [hp]))
      cases e with
      | folder =>
        obtain ⟨t', ht', hext⟩ := makeFolder_take_succ_of_folder hq hfit hx hkq hp hnone
        rw [fileOnWay_take_succ_of_folder hp]
        refine ⟨fun i hi => (by cases hi), fun _ => ⟨t', ?_, hext.prefixes_take_succ hx hp hkq⟩⟩
        rw [makeFoldersUpTo_succ_of_reaches hd hparent, ht']
      | file =>
        rw [fileOnWay_take_succ_of_file hkq hp]
        have hk0 : 0 < k := pos_of_entry_take_ne_folder (t := x) (q := q) (by rw [hp]; simp)
        refine ⟨fun i hi => ?_, fun h => by cases h⟩
        cases hi
        rw [makeFoldersUpTo_succ_of_reaches hd hparent, makeFolder_take_succ_of_file hq hfit hx hkq hp,
          show k - 1 + 2 = k + 1 by omega]
    | none =>
      -- the parent leads to nothing: the same making, one name shorter, comes first
      have hk0 : 0 < k := pos_of_entry_take_ne_folder (t := x) (q := q) (by rw [hp]; simp)
      have hparent : t.reaches r ((q.map decode).take k) = false := by
        simpa [hp] using hreach
      have hroom' : CallDepth.fits (depth + 1 + k + 1) = true := CallDepth.fits_of_le (by omega) hroom
      obtain ⟨hstop, hmade⟩ := ih hx hkq.le hp hroom'
      rw [fileOnWay_take_succ_of_none hp]
      refine ⟨fun i hi => makeFoldersUpTo_succ_of_stop hd hk0 hparent (hstop i hi) (by simp),
        fun hw => ?_⟩
      obtain ⟨t', ht', hext⟩ := hmade hw
      -- now the parent is a folder and the folder itself still leads to nothing
      obtain ⟨x', hx'⟩ := hext.at? hx
      have hpx' : x'.entry (q.take k) = some .folder := by
        rw [← entry_append hx', hext.folder]
        exact .inr ⟨q.take k, List.prefix_refl _, rfl⟩
      have hnone' : x'.entry (q.take (k + 1)) = none := by
        rw [← entry_append hx', hext.entry_of_not_new (not_exists_prefix_take _ hkq), entry_append hx,
          hnone]
      obtain ⟨t'', ht'', hext'⟩ := makeFolder_take_succ_of_folder hq hfit hx' hkq hpx' hnone'
      refine ⟨t'', by rw [makeFoldersUpTo_succ_of_made hd hk0 hparent ht', ht''], ?_⟩
      refine (hext.trans hext').congr fun z => ?_
      rw [exists_prefix_take_succ_iff _ hkq]

theorem Tree.makeFolders_decode (hx : t.at? r.path = some x) (hnone : x.entry q = none)
    {depth : Nat} (hroom : CallDepth.fits (depth + q.length + 1) = true) :
    (∀ i, x.fileOnWay q = some i →
      t.makeFolders r false (q.map decode) depth =
        (t, some (.notFolder (r.show ((q.take (i + 2)).map decode))))) ∧
    (x.fileOnWay q = none → ∃ t', t.makeFolders r false (q.map decode) depth = (t', none) ∧
      t.Extends t' fun z => ∃ a, a <+: q ∧ z = r.path ++ a) := by
  have h := makeFoldersUpTo_decode hq hfit q.length hx le_rfl
    (by rwa [List.take_length]) hroom
  rw [List.take_length] at h
  rwa [Tree.makeFolders, List.length_map]

end Names

end Key

/-! ## The keys in turn

Making the keys in turn keeps the invariant that the system extends the first one by
folders, with the files as they were: so a key that led to nothing and now leads to an
entry leads to a folder, and every key is made or reported by the file on its way in the
first system. -/

namespace Tree.Extends

variable {t₀ t x₀ x : Tree} {N : List Name → Prop} {p q : List Name}

theorem entry_eq_folder_of_now (h : t₀.Extends t N) (h₀ : t₀.at? p = some x₀)
    (hx : t.at? p = some x) (hnow : x.entry q ≠ none) (hfirst : x₀.entry q = none) :
    x.entry q = some .folder := by
  cases hq : x.entry q with
  | none => exact absurd hq hnow
  | some e =>
    cases e with
    | folder => rfl
    | file =>
      have hfile := (h.file (p ++ q)).mp (by rw [entry_append hx, hq])
      rw [entry_append h₀, hfirst] at hfile
      cases hfile

theorem folder_or_new_of_prefix (h : t₀.Extends t N) (hx : t.at? p = some x) {a : List Name}
    (hq : x.entry q = some .folder) (ha : a <+: q) :
    t₀.entry (p ++ a) = some .folder ∨ N (p ++ a) :=
  (h.folder _).mp (by rw [entry_append hx]; exact entry_eq_folder_of_prefix_folder hq ha)

end Tree.Extends

section Keys

variable {r : Root} {depth : Nat}

/-- Making the keys in turn, from a system that extends the first by folders `N`: nothing
stops the making; the system afterwards extends the first by `N` and, for every key that
led to nothing at first and met no file on its way, the key and every path above it; and
exactly the keys that met a file on their way are reported, in turn, each under the path
one name below that file. -/
theorem Tree.repeatFolders_decode {t₀ x₀ : Tree} (h₀ : t₀.at? r.path = some x₀)
    (ps : List (List Name))
    (hps : ∀ q ∈ ps, (∀ n ∈ q, EntryName n) ∧ r.Fits q ∧ CallDepth.fits (depth + q.length + 1) = true) :
    ∀ {t : Tree} {N : List Name → Prop}, t₀.Extends t N →
      (t.repeatFolders r depth (ps.map fun q => q.map decode)).stop = none ∧
      t₀.Extends (t.repeatFolders r depth (ps.map fun q => q.map decode)).made
        (fun z => N z ∨ ∃ q ∈ ps, x₀.entry q = none ∧ x₀.fileOnWay q = none ∧
          ∃ a, a <+: q ∧ z = r.path ++ a) ∧
      (t.repeatFolders r depth (ps.map fun q => q.map decode)).reports =
        ps.filterMap fun q =>
          (x₀.fileOnWay q).map fun i => .notFolder (r.show ((q.take (i + 2)).map decode)) := by
  induction ps with
  | nil =>
    intro t N h
    exact ⟨rfl, h.congr fun z => by simp, rfl⟩
  | cons q ps ih =>
    intro t N h
    obtain ⟨hq, hfit, hroom⟩ := hps q List.mem_cons_self
    have hps' : ∀ q' ∈ ps, (∀ n ∈ q', EntryName n) ∧ r.Fits q' ∧
        CallDepth.fits (depth + q'.length + 1) = true :=
      fun q' hq' => hps q' (List.mem_cons_of_mem _ hq')
    obtain ⟨x, hx⟩ := h.at? h₀
    have hway : x.fileOnWay q = x₀.fileOnWay q := h.fileOnWay h₀ hx q
    rw [List.map_cons, Tree.repeatFolders]
    by_cases hreach : t.reaches r (q.map decode) = true
    · -- the key leads to an entry: it is left alone, and it adds nothing new
      rw [if_pos hreach]
      have hne : x.entry q ≠ none := (reaches_decode_iff hx hq hfit).mp hreach
      have hnone : x₀.fileOnWay q = none := hway ▸ fileOnWay_eq_none_of_entry hne
      obtain ⟨hstop, hext, hrep⟩ := ih hps' h
      refine ⟨hstop, hext.congr fun z => ?_, by rw [hrep, List.filterMap_cons, hnone]; rfl⟩
      simp only [List.mem_cons, or_and_right, exists_or, exists_eq_left]
      constructor
      · rintro (h | h | h)
        · exact .inl h
        · exact .inr (.inl h)
        · exact .inr (.inr (.inr h))
      · rintro (h | h | ⟨hfirst, -, a, ha, rfl⟩ | h)
        · exact .inl h
        · exact .inr (.inl h)
        · -- an earlier key made it a folder, with every path above it
          have hfolder := h.entry_eq_folder_of_now h₀ hx hne hfirst
          exact (h.folder_or_new_of_prefix hx hfolder ha).imp_right .inl
        · exact .inr (.inr h)
    · rw [if_neg hreach]
      have hxq : x.entry q = none := by
        by_contra hne
        exact hreach ((reaches_decode_iff hx hq hfit).mpr hne)
      have hx₀q : x₀.entry q = none := by
        rw [← entry_append h₀]
        exact h.entry_eq_none (by rw [entry_append hx]; exact hxq)
      obtain ⟨hblocked, hfree⟩ := makeFolders_decode hq hfit hx hxq hroom
      cases hw : x₀.fileOnWay q with
      | some i =>
        -- a file on the way: the key is reported and makes nothing
        rw [hblocked i (hway.trans hw)]
        dsimp only
        obtain ⟨hstop, hext, hrep⟩ := ih hps' h
        refine ⟨hstop, hext.congr fun z => ?_, by rw [hrep, List.filterMap_cons, hw]; rfl⟩
        simp [or_and_right, exists_or, hw]
      | none =>
        -- the key is made with every path above it
        obtain ⟨t', ht', hext'⟩ := hfree (hway.trans hw)
        rw [ht']
        dsimp only
        obtain ⟨hstop, hext, hrep⟩ := ih hps' (h.trans hext')
        refine ⟨hstop, hext.congr fun z => ?_, by rw [hrep, List.filterMap_cons, hw]; rfl⟩
        simp only [List.mem_cons, or_and_right, exists_or, exists_eq_left, hx₀q, hw, true_and,
          or_assoc]

/-- Making the folders of a scan below the root `r`, the folder `x` of the system `t`, key
by key in the order given: for keys of real names whose real paths are short enough, with
room for the calls their parents open, nothing stops the making; the system keeps its files
and gains, for each key that leads to nothing and meets no file on its way down
(`Tree.fileOnWay`: after how many names a file stands there), the key and every path above
it below the root; exactly the keys that meet a file on their way are reported, each once,
under the path one name below that file, and the report says that it is no directory.  So
the folders made and the reports, up to order, are the same in every order of the keys. -/
theorem Tree.repeatFolders_outcome {t x : Tree} {r : Root} (hx : t.at? r.path = some x)
    (depth : Nat) (ps : List (List Name))
    (hps : ∀ q ∈ ps, (∀ n ∈ q, EntryName n) ∧ r.Fits q ∧ CallDepth.fits (depth + q.length + 1) = true) :
    (t.repeatFolders r depth (ps.map fun q => q.map decode)).stop = none ∧
    (∀ z, (t.repeatFolders r depth (ps.map fun q => q.map decode)).made.entry z = some .file ↔
      t.entry z = some .file) ∧
    (∀ z, (t.repeatFolders r depth (ps.map fun q => q.map decode)).made.entry z = some .folder ↔
      t.entry z = some .folder ∨
        ∃ q ∈ ps, x.entry q = none ∧ x.fileOnWay q = none ∧ ∃ a, a <+: q ∧ z = r.path ++ a) ∧
    (∀ q i, x.fileOnWay q = some i ↔ i + 1 < q.length ∧ x.entry (q.take (i + 1)) = some .file) ∧
    (t.repeatFolders r depth (ps.map fun q => q.map decode)).reports =
      ps.filterMap (fun q =>
        (x.fileOnWay q).map fun i => .notFolder (r.show ((q.take (i + 2)).map decode))) ∧
    (∀ p, report (.notFolder p) =
      "Couldn't make files\n     [Errno 20] Not a directory: " ++ String.ofList (Text.quote p) ++ "\n") ∧
    (∀ ps' : List (List Name), ps'.Perm ps →
      (∀ z, (t.repeatFolders r depth (ps'.map fun q => q.map decode)).made.entry z =
        (t.repeatFolders r depth (ps.map fun q => q.map decode)).made.entry z) ∧
      (t.repeatFolders r depth (ps'.map fun q => q.map decode)).reports.Perm
        (t.repeatFolders r depth (ps.map fun q => q.map decode)).reports) := by
  obtain ⟨hstop, hext, hrep⟩ := repeatFolders_decode hx ps hps (Tree.Extends.refl t)
  refine ⟨hstop, hext.file, fun z => by rw [hext.folder, false_or], fileOnWay_eq_some_iff x, hrep,
    fun _ => rfl, fun ps' hperm => ?_⟩
  have hps' : ∀ q ∈ ps', (∀ n ∈ q, EntryName n) ∧ r.Fits q ∧
      CallDepth.fits (depth + q.length + 1) = true := fun q hq => hps q (hperm.mem_iff.mp hq)
  obtain ⟨-, hext', hrep'⟩ := repeatFolders_decode hx ps' hps' (Tree.Extends.refl t)
  refine ⟨hext'.entry_eq hext fun z => ?_, by rw [hrep', hrep]; exact hperm.filterMap _⟩
  -- the keys count by which are among them, not by their order
  simp only [false_or]
  exact exists_congr fun q => and_congr_left fun _ => hperm.mem_iff

/-- A source folder that holds a folder `a` and a file `f`. -/
def sourceSample : Tree := .node [nameOf "f"] [(nameOf "a", .empty)]

/-- Keys below it: one inside the folder, one through the file, the file itself, a new one
two names deep, and the folder itself. -/
def keysSample : List (List Name) :=
  [[nameOf "a", nameOf "b"], [nameOf "f", nameOf "g", nameOf "h"], [nameOf "f"],
    [nameOf "n", nameOf "m"], [nameOf "a"]]

theorem Tree.repeatFolders_outcome_sample :
    (∀ q ∈ keysSample, (∀ n ∈ q, EntryName n) ∧ (Root.mk (lit "S/") 2 []).Fits q ∧
      CallDepth.fits (9 + q.length + 1) = true) ∧
    (sourceSample.repeatFolders ⟨lit "S/", 2, []⟩ 9 (keysSample.map fun q => q.map decode)).reports =
      [.notFolder (lit "S/f/g")] ∧
    (sourceSample.repeatFolders ⟨lit "S/", 2, []⟩ 9 (keysSample.map fun q => q.map decode)).made.entry
      [nameOf "n", nameOf "m"] = some .folder := by
  have hps : ∀ q ∈ keysSample, (∀ n ∈ q, EntryName n) ∧ (Root.mk (lit "S/") 2 []).Fits q ∧
      CallDepth.fits (9 + q.length + 1) = true := by decide
  obtain ⟨-, -, hfolder, -, hrep, -⟩ :=
    Tree.repeatFolders_outcome (t := sourceSample) rfl 9 keysSample hps
  -- only the key through the file meets a file on its way, after one name
  have hblocked : keysSample.filterMap (fun q => (sourceSample.fileOnWay q).map fun i => q.take (i + 2)) =
      [[nameOf "f", nameOf "g"]] := by decide
  refine ⟨hps, ?_, (hfolder _).mpr (.inr ⟨_, by simp [keysSample], by decide, by decide, _, List.prefix_refl _, rfl⟩)⟩
  calc _ = _ := hrep
    _ = (keysSample.filterMap fun q => (sourceSample.fileOnWay q).map fun i => q.take (i + 2)).map
          fun p => Fault.notFolder ((Root.mk (lit "S/") 2 []).show (p.map decode)) := by
        rw [List.map_filterMap]
        simp only [Option.map_map]
        rfl
    _ = _ := by
        rw [hblocked, List.map_cons, List.map_nil, List.map_cons, List.map_cons, List.map_nil,
          decode_nameOf (by decide), decode_nameOf (by decide)]
        rfl

end Keys

end StubGen.Folder
