/-
The state a generator carries through a session.

Main statement, `session_answer_eq`: in a session started on a generator without
tables, the answer to the `i`-th request is the answer that request gets on its own
from a generator with the standard tables when some earlier request installed them,
and from a generator without tables otherwise; and a generator without tables refuses
every text as a type with the fault of missing tables, and every other value as no
text, whenever there is room for the calls that rendering opens.  So whether the tables
are installed is all the state a session carries: no other request changes it, whether
it answers or fails, and installing the tables twice is installing them once.

What the answers themselves are is not stated here; the modules that compute them
say that.
-/
import StubGen.Session

namespace StubGen

namespace Generator

theorem after_eq (g : Generator) (q : Request) :
    g.after q = if Request.installs (.ok q) then Generator.ready else g := by
  cases q <;> rfl

theorem session_getElem? (g : Generator) (depth : Nat) (rs : List (Except Fault Request))
    (i : Nat) :
    (g.session depth rs)[i]? =
      rs[i]?.map fun r =>
        r >>= (if (rs.take i).any Request.installs then Generator.ready else g).answer depth := by
  induction rs generalizing g i with
  | nil => simp [session]
  | cons r rs ih =>
    cases i with
    | zero =>
      cases r with
      | error f => rfl
      | ok q => rfl
    | succ i =>
      cases r with
      | error f =>
        simp only [session, List.getElem?_cons_succ, List.take_succ_cons, List.any_cons,
          Request.installs, Bool.false_or]
        exact ih g i
      | ok q =>
        simp only [session, List.getElem?_cons_succ, List.take_succ_cons, List.any_cons]
        rw [ih (g.after q) i, after_eq]
        by_cases hq : Request.installs (.ok q) = true
        · simp [hq]
        · simp only [hq, Bool.false_or, if_false, Bool.false_eq_true]

theorem typeName_fresh (depth : Nat) (v : Node) :
    Generator.fresh.typeName depth v =
      if CallDepth.fits depth then
        match v with
        | .text _ =>
          if CallDepth.fits (depth + 1) then .error .unready else .error (.tooDeep .builtin)
        | _ => .error (.noAttribute v.kind "split")
      else .error (.tooDeep .frame) := by
  by_cases h0 : CallDepth.fits depth <;> by_cases h1 : CallDepth.fits (depth + 1) <;>
    cases v <;> simp [typeName, CallDepth.enter, CallDepth.call, h0, h1, fresh, Node.asText] <;> rfl

end Generator

theorem session_answer_eq (depth : Nat) (rs : List (Except Fault Request)) (i : Nat) :
    (Generator.fresh.session depth rs)[i]? =
      rs[i]?.map (fun r => r >>=
        (if (rs.take i).any Request.installs then Generator.ready else Generator.fresh).answer
          depth) ∧
    ∀ v : Node, Generator.fresh.typeName depth v =
      if CallDepth.fits depth then
        match v with
        | .text _ =>
          if CallDepth.fits (depth + 1) then .error .unready else .error (.tooDeep .builtin)
        | _ => .error (.noAttribute v.kind "split")
      else .error (.tooDeep .frame) :=
  ⟨Generator.session_getElem? Generator.fresh depth rs i, Generator.typeName_fresh depth⟩

end StubGen
