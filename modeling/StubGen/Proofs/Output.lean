/-
# `StubGen.Proofs.Output` — what writing a generated file changes

A generated file is written in three steps (`Output.store`): the data and the class name are
read, the file is opened for writing, which makes it or empties it, and the text is encoded
into it.  Opening comes before encoding, so every fault but the last leaves the system as it
was, and the last leaves the file made and empty.

The file that a path below the output folder opens is `Tree.openTarget`: the path is followed
to the folder that holds its last name (`Tree.locate`), from the top when it starts with a
slash, and the last name must be one that a file can have there.  For a relative path of real
names it is that path below the root (`Tree.openTarget_decode`).  Making it a file changes
what that path leads to and nothing else (`Tree.makeFile_of_openTarget`, from
`Tree.entry_addFile`), and a text can be stored exactly when it holds no lone surrogate
(`storable_eq_ok_iff`).

The main statement is `store_touches_only_opened_file`: a fault in reading leaves the system
as it was; a path that opens no file fails and changes nothing; otherwise the opened file is
the one entry that changes (`Disk.SameBut`), and it holds the tidied data, or nothing when
that has a lone surrogate.  A class named by a list that holds a name from the top, such as
`/tmp/x`, is so written outside the output folder (`store_absolute_name_outside_root`).

Reading a description takes its loader as a parameter.  The installed one refuses every call
made with the text alone (`Loader.RefusesBareCall`), so the service never reads a file that
is present (`Service.getDict_never_reads`).
-/
import Mathlib
import StubGen.Proofs.Folder.Locate
import StubGen.Service

namespace StubGen.Folder

/-! ## The file that a path opens

Opening a path for writing follows the names before the last to a folder, from the top
when the path starts with a slash, and makes or empties a file of the last name there,
when that name can name a file.  Making that file changes no other path. -/

/-- The file that opening the path `names` below the root for writing makes or empties: the
path from the top of its last name, once the names before it are followed to a folder, when
that name is neither empty, `.` nor `..`, fits a folder entry, and is no folder there. -/
def Tree.openTarget (t : Tree) (r : Root) (names : Path) : Option (List Name) :=
  match t.locate r names with
  | .ok (trail, last) =>
    if isHere last || nameLimit < last.length || ((folderAt t trail).child? last).isSome then none
    else some (trailPath trail ++ [last])
  | .error _ => none

section Open

variable {t : Tree} {r : Root} {names : Path} {file : List Name}

theorem Tree.openTarget_eq_some (h : t.openTarget r names = some file) :
    ∃ trail last, t.locate r names = .ok (trail, last) ∧ file = trailPath trail ++ [last] ∧
      isHere last = false ∧ last.length ≤ nameLimit ∧ (folderAt t trail).child? last = none := by
  unfold Tree.openTarget at h
  split at h
  · rename_i trail last hloc
    split at h
    · cases h
    · rename_i hok
      simp only [Bool.or_eq_true, decide_eq_true_eq, Option.isSome_iff_ne_none, not_or,
        not_not] at hok
      obtain ⟨⟨hhere, hlen⟩, hchild⟩ := hok
      exact ⟨trail, last, hloc, (Option.some.inj h).symm, by simpa using hhere, Nat.not_lt.mp hlen,
        hchild⟩
  · cases h

/-- Making the file that a path opens makes it a file, made or kept, and changes no other
path. -/
theorem Tree.makeFile_of_openTarget (h : t.openTarget r names = some file) :
    ∃ made, t.makeFile r names = .ok made ∧
      ∀ z, made.entry z = if z = file then some .file else t.entry z := by
  obtain ⟨trail, last, hloc, rfl, hhere, hlen, hchild⟩ := Tree.openTarget_eq_some h
  have hat := (Tree.locate_real hloc).at?
  unfold Tree.makeFile
  simp only [hloc, bind, Except.bind, hhere, Bool.false_eq_true, if_false, Nat.not_lt.mpr hlen,
    hchild, Option.isSome_none]
  split
  · -- the file is there already and is kept as it is
    rename_i hmem
    refine ⟨t, rfl, fun z => ?_⟩
    split
    · rename_i hz
      subst hz
      rw [entry_append hat, entry_cons_of_no_child hchild]
      simp only [List.isEmpty_nil, Bool.true_and, hmem, if_true]
    · rfl
  · exact ⟨_, rfl, entry_addFile hat hchild⟩

theorem Tree.makeFile_error_of_openTarget (h : t.openTarget r names = none) :
    ∃ f, t.makeFile r names = .error f := by
  unfold Tree.openTarget at h
  unfold Tree.makeFile
  split at h
  · rename_i trail last hloc
    simp only [hloc, bind, Except.bind]
    split at h
    · -- each guard that refuses the last name makes the file fail
      rename_i hno
      split
      · exact ⟨_, rfl⟩
      split
      · exact ⟨_, rfl⟩
      split
      · exact ⟨_, rfl⟩
      rename_i hhere hlen hchild
      simp [hhere, hlen, hchild] at hno
    · cases h
  · rename_i f hloc
    exact ⟨f, by simp [hloc, bind, Except.bind]⟩

/-- A relative path of real names opens the file that its names spell below the root, once
the names before the last lead to a folder there that holds no folder of the last name. -/
theorem Tree.openTarget_decode {x e : Tree} {a : List Name} {n : Name}
    (hx : t.at? r.path = some x) (ha : x.at? a = some e) (hn : e.child? n = none)
    (hq : ∀ m ∈ a ++ [n], EntryName m) (hfit : r.Fits (a ++ [n])) :
    t.openTarget r ((a ++ [n]).map Text.decode) = some (r.path ++ a ++ [n]) := by
  obtain ⟨hfold, hpath⟩ := Tree.trailTo_of_at? hx
  have hn' := hq n (List.mem_append_right _ List.mem_cons_self)
  obtain ⟨here', h1, h2, h3⟩ :=
    Tree.follow_append_singleton (fun m hm => hq m (List.mem_append_left _ hm)) (hfold ▸ ha) n
  unfold Tree.openTarget
  rw [Tree.locate_decode hq hfit, h3]
  simp [Except.mapError, hn'.isHere_eq_false, Nat.not_lt.mpr hn'.length_le, h1, hn, h2, hpath]

end Open

end StubGen.Folder

namespace StubGen.Output

open Text (Point lit)
open Folder (Name Root Path Tree)

/-! ## What opening and writing a file change

`Disk.SameBut` says two systems differ in one file at most.  Opening makes the file or
empties it, and writing puts a text into it; each changes that file alone.  A text can
be encoded into a file exactly when it holds no lone surrogate. -/

namespace Disk

variable {d : Disk} {file : List Name}

@[simp] theorem put_tree (d : Disk) (file : List Name) (s : List Point) :
    (d.put file s).tree = d.tree := rfl

@[simp] theorem put_text_self (d : Disk) (file : List Name) (s : List Point) :
    (d.put file s).text file = s := by
  simp [put]

theorem put_text_of_ne (d : Disk) {file q : List Name} (s : List Point) (hq : q ≠ file) :
    (d.put file s).text q = d.text q := by
  simp [put, hq]

/-- The system `after` is the system `before` but for the file `file`: that is a file
afterwards, and every other path leads to the entry and holds the text it did before. -/
structure SameBut (after before : Disk) (file : List Name) : Prop where
  isFile : after.tree.entry file = some .file
  entry_eq : ∀ q, q ≠ file → after.tree.entry q = before.tree.entry q
  text_eq : ∀ q, q ≠ file → after.text q = before.text q

theorem SameBut.put {after : Disk} (h : after.SameBut d file) (s : List Point) :
    (after.put file s).SameBut d file :=
  ⟨h.isFile, h.entry_eq, fun q hq => (put_text_of_ne after s hq).trans (h.text_eq q hq)⟩

variable {r : Root} {names : Path}

theorem openFile_of_openTarget (h : d.tree.openTarget r names = some file) :
    ∃ opened, d.openFile r names = .ok (opened, file) ∧ opened.SameBut d file ∧
      opened.text file = [] := by
  obtain ⟨made, hmade, hentry⟩ := Tree.makeFile_of_openTarget h
  obtain ⟨trail, last, hloc, rfl, -⟩ := Tree.openTarget_eq_some h
  refine ⟨(⟨made, d.text⟩ : Disk).put (Folder.trailPath trail ++ [last]) [],
    by simp [openFile, hmade, hloc, bind, Except.bind, pure, Except.pure], ?_, put_text_self _ _ _⟩
  exact ⟨by simp [hentry], fun q hq => by simp [hentry, hq], fun q hq => put_text_of_ne _ _ hq⟩

theorem openFile_error_of_openTarget (h : d.tree.openTarget r names = none) :
    ∃ f, d.openFile r names = .error f := by
  obtain ⟨f, hf⟩ := Tree.makeFile_error_of_openTarget h
  exact ⟨f, by simp [openFile, hf, bind, Except.bind]⟩

end Disk

theorem encode_file_ok_iff : ∀ (i : Nat) (s : List Point),
    (∃ bs, Text.encode (fun _ => false) i s = .ok bs) ↔ ∀ p ∈ s, p.isSurrogate = false
  | _, [] => by simp [Text.encode]
  | i, .char c :: rest => by
    simp [Text.encode, Except.map_eq_ok, encode_file_ok_iff (i + 1) rest, Point.isSurrogate]
  | i, .surrogate o :: rest => by simp [Text.encode, Point.isSurrogate]

/-- A text can be stored in a file exactly when it holds no lone surrogate. -/
theorem storable_eq_ok_iff (text : List Point) :
    storable text = .ok () ↔ ∀ p ∈ text, p.isSurrogate = false := by
  rw [← encode_file_ok_iff 0 text]
  unfold storable Text.fileBytes
  cases Text.encode (fun _ => false) 0 text <;> simp

theorem storable_eq_error {text : List Point} {f : Fault} (h : storable text = .error f) :
    ∃ u, f = Folder.unstorable u := by
  unfold storable at h
  split at h
  · cases h
    exact ⟨_, rfl⟩
  · cases h

/-! ## Writing a generated file

A write reads its data and class name, opens the file, and then encodes the text into
it.  So a fault in reading changes nothing, a path that opens no file changes nothing,
and a text that cannot be encoded leaves the file made and empty. -/

section Store

variable {d : Disk} {root : Root} {data spec : Node}

theorem prepare_of_text {s : List Point} {n : Node} {name : List Point} (hs : data = .text s)
    (hn : spec.field "name" = .ok n) (hname : FileName.ofNode n = .ok name) :
    prepare data spec = .ok (Text.tidy s, Text.splitOn '/' (name ++ lit ".cpp")) := by
  subst hs
  simp [prepare, Node.asText, hn, hname, bind, Except.bind, pure, Except.pure]

theorem store_of_prepare_error {f : Fault} (h : prepare data spec = .error f) :
    store d root data spec = (d, .error f) := by
  simp only [store, h]

theorem store_of_openTarget_none {text : List Point} {names : Path}
    (hp : prepare data spec = .ok (text, names)) (h : d.tree.openTarget root names = none) :
    ∃ f, store d root data spec = (d, .error f) := by
  obtain ⟨f, hf⟩ := Disk.openFile_error_of_openTarget h
  exact ⟨f, by simp only [store, hp, hf]⟩

theorem store_of_openTarget {text : List Point} {names : Path} {file : List Name}
    (hp : prepare data spec = .ok (text, names)) (h : d.tree.openTarget root names = some file) :
    (store d root data spec).1.SameBut d file ∧
    ((∀ p ∈ text, p.isSurrogate = false) →
      (store d root data spec).2 = .ok file ∧ (store d root data spec).1.text file = text) ∧
    ((∃ p ∈ text, p.isSurrogate = true) →
      (∃ u, (store d root data spec).2 = .error (Folder.unstorable u)) ∧
        (store d root data spec).1.text file = []) := by
  obtain ⟨opened, hopen, hsame, hempty⟩ := Disk.openFile_of_openTarget h
  cases hs : storable text with
  | ok u =>
    -- the text is stored: the file holds it
    have hno := (storable_eq_ok_iff text).mp hs
    have hstore : store d root data spec = (opened.put file text, .ok file) := by
      simp only [store, hp, hopen, hs]
    rw [hstore]
    refine ⟨hsame.put text, fun _ => ⟨rfl, Disk.put_text_self _ _ _⟩, ?_⟩
    rintro ⟨p, hp, hsur⟩
    rw [hno p hp] at hsur
    cases hsur
  | error f =>
    -- the file was opened, and so emptied, before the text failed to encode
    have hsome : ∃ p ∈ text, p.isSurrogate = true := by
      have hnot : ¬ ∀ p ∈ text, p.isSurrogate = false := by
        rw [← storable_eq_ok_iff, hs]
        simp
      simpa using hnot
    obtain ⟨u, rfl⟩ := storable_eq_error hs
    have hstore : store d root data spec = (opened, .error (Folder.unstorable u)) := by
      simp only [store, hp, hopen, hs]
    rw [hstore]
    exact ⟨hsame, fun hall => absurd hall (by simpa using hsome), fun _ => ⟨⟨u, rfl⟩, hempty⟩⟩

end Store

/-- **Writing a generated file changes that file alone.**  A fault in reading the data or
the class name stops the write before anything is opened, and the system is left as it was.
Otherwise, with the data a text `s` and the file name `name` of the class, the path
`name.cpp` below the output folder (`/` splits it into names; from the top when it starts
with one) either opens no file, so the write fails and changes nothing, or opens the file
`file` (`Tree.openTarget`).  Then `file` is a file afterwards and nothing else changes
(`Disk.SameBut`); it holds `s` tidied when that holds no lone surrogate, and is left empty,
with the fault of the surrogate, when it does. -/
theorem store_touches_only_opened_file (d : Disk) (root : Root) (data spec : Node) :
    (∀ f, prepare data spec = .error f → store d root data spec = (d, .error f)) ∧
    ∀ s n name, data = .text s → spec.field "name" = .ok n → FileName.ofNode n = .ok name →
      (d.tree.openTarget root (Text.splitOn '/' (name ++ lit ".cpp")) = none →
        ∃ f, store d root data spec = (d, .error f)) ∧
      ∀ file, d.tree.openTarget root (Text.splitOn '/' (name ++ lit ".cpp")) = some file →
        (store d root data spec).1.SameBut d file ∧
        ((∀ p ∈ Text.tidy s, p.isSurrogate = false) →
          (store d root data spec).2 = .ok file ∧
            (store d root data spec).1.text file = Text.tidy s) ∧
        ((∃ p ∈ Text.tidy s, p.isSurrogate = true) →
          (∃ u, (store d root data spec).2 = .error (Folder.unstorable u)) ∧
            (store d root data spec).1.text file = []) := by
  refine ⟨fun f h => store_of_prepare_error h, fun s n name hs hn hname => ?_⟩
  have hp := prepare_of_text hs hn hname
  exact ⟨store_of_openTarget_none hp, fun file h => store_of_openTarget hp h⟩

/-- The class `Foo` with the data `a`, written into the empty scratch folder, is the file
`foo.cpp` there, which holds the data tidied, and nothing else changes. -/
theorem store_touches_only_opened_file_foo :
    (Folder.system .empty).openTarget Service.outputRoot (Text.splitOn '/' (lit "foo" ++ lit ".cpp")) =
        some (Folder.scratchPath ++ [Folder.nameOf "foo.cpp"]) ∧
      (store ⟨Folder.system .empty, fun _ => []⟩ Service.outputRoot (.text (lit "a"))
          (.dict [(lit "name", .text (lit "Foo"))])).1.SameBut
        ⟨Folder.system .empty, fun _ => []⟩ (Folder.scratchPath ++ [Folder.nameOf "foo.cpp"]) ∧
      (store ⟨Folder.system .empty, fun _ => []⟩ Service.outputRoot (.text (lit "a"))
          (.dict [(lit "name", .text (lit "Foo"))])).2 =
        .ok (Folder.scratchPath ++ [Folder.nameOf "foo.cpp"]) := by
  have hopen : (Folder.system .empty).openTarget Service.outputRoot
      (Text.splitOn '/' (lit "foo" ++ lit ".cpp")) =
        some (Folder.scratchPath ++ [Folder.nameOf "foo.cpp"]) := by
    cbv
  obtain ⟨hsame, hok, -⟩ := ((store_touches_only_opened_file ⟨Folder.system .empty, fun _ => []⟩
    Service.outputRoot (.text (lit "a")) (.dict [(lit "name", .text (lit "Foo"))])).2
    (lit "a") (.text (lit "Foo")) (lit "foo") rfl rfl (by cbv)).2 _ hopen
  have htidy : Text.tidy (lit "a") = lit "a\n" := by cbv
  exact ⟨hopen, hsame, (hok (by rw [htidy]; decide)).1⟩

/-- A class named by a list whose one member is the name `/tmp/x` from the top is written to
`/tmp/x.cpp`, outside the output folder: the write succeeds and leaves no file in that
folder, which holds no folder `tmp` into which `<tmp>//tmp/x.cpp` could go. -/
theorem store_absolute_name_outside_root :
    (store ⟨Folder.system .empty, fun _ => []⟩ Service.outputRoot (.text (lit "a"))
        (.dict [(lit "name", .list [.text (lit "/tmp/x")])])).2 =
      .ok [Folder.nameOf "tmp", Folder.nameOf "x.cpp"] ∧
    Service.writeOut (.dict [(lit "spec", .dict [(lit "name", .list [.text (lit "/tmp/x")])]),
      (lit "data", .text (lit "a"))]) = .written [] ∧
    (Folder.system .empty).entry (Folder.scratchPath ++ [Folder.nameOf "tmp"]) = none := by
  refine ⟨by cbv, by cbv, by cbv⟩

/-! ## Reading a description

The loader is a parameter of `readDescription`, and what reading gives follows from what
the loader is assumed to do.  The installed one refuses every call that passes the text
alone, so a description that is present is never read: the only value a reading gives is
the empty dictionary of a missing file. -/

/-- A loader that refuses every call made with the text alone, for want of its `Loader`
argument. -/
def Loader.RefusesBareCall (load : Loader) : Prop :=
  ∀ text, load text = .error .loaderRequired

theorem installedLoad_refusesBareCall : installedLoad.RefusesBareCall := fun _ => rfl

theorem readDescription_of_refusesBareCall {load : Loader} (hload : load.RefusesBareCall)
    (present : Bool) (path : String) (text : List Point) :
    readDescription load present path text =
      if present then .error .loaderRequired
      else .ok (.dict [], "No file " ++ path ++ "\n") := by
  cases present with
  | false => rfl
  | true =>
    simp only [readDescription, if_true, hload text]
    rfl

end StubGen.Output

namespace StubGen.Service

/-- Reading a description through the service either fails or answers the empty dictionary
of a missing file: a file that is present is never read, whatever it holds. -/
theorem getDict_never_reads (req : Node) :
    getDict req = .description (.dict []) ("No file " ++ descriptionPath ++ "\n") ∨
      ∃ f, getDict req = .failed f := by
  have hread := Output.readDescription_of_refusesBareCall Output.installedLoad_refusesBareCall
  unfold getDict
  split
  · exact .inr ⟨_, rfl⟩
  · split
    · -- a file that is present is written, then its reading fails
      split
      · split
        · exact .inr ⟨_, rfl⟩
        · rw [hread]
          exact .inr ⟨_, rfl⟩
      · exact .inr ⟨_, rfl⟩
      · exact .inr ⟨_, rfl⟩
    · rw [hread]
      exact .inl rfl

end StubGen.Service
