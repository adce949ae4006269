import Autoscaler.Proofs.Misc
import Autoscaler.Yaml.Token.Lexer
import Mathlib.Data.List.InsertIdx

/-!
# Scans of whole texts

`Lexer.Scans l ts` says that the rest of a text, from a reader on, gives tokens up to the end of the
text. No step but the last one emits the token of that end, so that a run whose tokens have it is
such a scan of a text without a fault (`scans_of_run`).
-/

namespace Autoscaler

namespace Yaml

namespace Lexer

/-- Whether the end of the text is not among the tokens. -/
def Unended (l : Lexer) : Prop := ∀ t ∈ l.tokens, t ≠ .streamEnd

variable {l m : Lexer} {t : Token}

/-! ## Steps inside of a text -/

theorem Unended.of_tokens (unended : Unended l) (same : m.tokens = l.tokens) : Unended m := by
  rw [Unended, same]
  exact unended

theorem Unended.emit (unended : Unended l) (inside : t ≠ .streamEnd) : Unended (l.emit t) :=
  List.forall_mem_cons.mpr ⟨inside, unended⟩

theorem Unended.insert (unended : Unended l) (inside : t ≠ .streamEnd) (before : Nat) :
    Unended (l.insert before t) := by
  intro u member
  rcases List.eq_or_mem_of_mem_insertIdx member with rfl | member
  · exact inside
  · exact unended u member

theorem Unended.emitOver (unended : Unended l) (inside : t ≠ .streamEnd) (length : Nat) :
    Unended (l.emitOver t length) :=
  unended.emit inside

theorem Unended.closeBlocks (unended : Unended l) (open? : Nat → Bool) :
    Unended (l.closeBlocks open?) := by
  have closed : ∀ (columns : List Nat) {l : Lexer}, Unended l →
      Unended (columns.foldl (fun l _ => l.emit .blockEnd) l) := by
    intro columns
    induction columns with
    | nil => exact fun unended => unended
    | cons _ columns ih => exact fun unended => ih (unended.emit nofun)
  exact closed _ unended

theorem Unended.unwind (unended : Unended l) : Unended l.unwind := by
  unfold Lexer.unwind
  split
  next => exact unended.closeBlocks _
  next => exact unended

theorem Unended.unwindAll (unended : Unended l) : Unended l.unwindAll := by
  unfold Lexer.unwindAll
  split
  next => exact unended.closeBlocks _
  next => exact unended

theorem Unended.openBlock (unended : Unended l) (inside : t ≠ .streamEnd) :
    Unended (l.openBlock t) := by
  unfold Lexer.openBlock
  split
  next => exact unended.emit inside
  next => exact unended

theorem Unended.completeKey (unended : Unended l) (k : PendingKey) :
    Unended (l.completeKey k) := by
  have forgotten : Unended l.forgetHere := unended.of_tokens rfl
  have key : Unended (l.forgetHere.insert k.before .key) :=
    Unended.insert (t := .key) forgotten nofun _
  unfold Lexer.completeKey
  dsimp only
  split
  next => exact Unended.insert (t := .blockMappingStart) key nofun _
  next => exact key

theorem tokens_dropPending (done : l.dropPending = .ok m) : m.tokens = l.tokens := by
  unfold dropPending at done
  split at done
  next => cases done
  next =>
    cases done
    rfl

theorem tokens_savePending (done : l.savePending = .ok m) : m.tokens = l.tokens := by
  unfold savePending at done
  split at done
  next =>
    cases done
    rfl
  next =>
    obtain ⟨n, dropped, rfl⟩ := exists_of_map_eq_ok done
    exact (tokens_dropPending dropped : n.tokens = l.tokens)

theorem tokens_dropLapsed (done : l.dropLapsed = .ok m) : m.tokens = l.tokens := by
  unfold dropLapsed at done
  split at done
  next => cases done
  next =>
    cases done
    rfl

theorem tokens_skipGap (fuel : Nat) (l : Lexer) : (skipGap fuel l).tokens = l.tokens := by
  induction fuel generalizing l with
  | zero => rfl
  | succ fuel ih =>
      rw [skipGap]
      split
      next => rw [ih]
      next => rfl

theorem tokens_skipMark (l : Lexer) : l.skipMark.tokens = l.tokens := by
  unfold skipMark
  split <;> rfl

theorem ne_streamEnd_of_readTag {c : Cursor} {r : Token × Cursor} (read : readTag c = .ok r) :
    r.1 ≠ .streamEnd := by
  unfold readTag at read
  split at read
  next => cases read
  next =>
    split at read
    next =>
      cases read
      exact nofun
    next => cases read

/-- Whether the end of the text is not among the tokens of a reader that a step leaves. -/
def Leaves (r : Except Error Lexer) : Prop := ∀ m, r = .ok m → Unended m

theorem Leaves.ite {p : Prop} [Decidable p] {r s : Except Error Lexer} (ifTrue : Leaves r)
    (ifFalse : Leaves s) : Leaves (if p then r else s) := by
  split
  next => exact ifTrue
  next => exact ifFalse

section

variable (unended : Unended l)

include unended

theorem Unended.endDocument (done : l.endDocument = .ok m) : Unended m := by
  obtain ⟨n, dropped, rfl⟩ := exists_of_map_eq_ok done
  have same : n.tokens = l.unwindAll.tokens := tokens_dropPending dropped
  exact unended.unwindAll.of_tokens same

theorem Unended.keyPart {read : Cursor → Reading Token} (done : l.keyPart read = .ok m)
    (inside : ∀ {c r}, read c = .ok r → r.1 ≠ .streamEnd) : Unended m := by
  obtain ⟨n, saved, behind⟩ := exists_of_bind_eq_ok done
  obtain ⟨r, token, rfl⟩ := exists_of_map_eq_ok behind
  exact Unended.emit (unended.of_tokens (tokens_savePending saved)) (inside token)

theorem Unended.openFlow (done : l.openFlow t = .ok m) (inside : t ≠ .streamEnd) :
    Unended m := by
  obtain ⟨n, saved, rfl⟩ := exists_of_map_eq_ok done
  exact Unended.emit (unended.of_tokens (tokens_savePending saved)) inside

theorem Unended.closeFlow (done : l.closeFlow t = .ok m) (inside : t ≠ .streamEnd) :
    Unended m := by
  obtain ⟨n, dropped, rfl⟩ := exists_of_map_eq_ok done
  exact Unended.emit (unended.of_tokens (tokens_dropPending dropped)) inside

theorem Unended.directive (done : l.directive = .ok m) : Unended m := by
  obtain ⟨n, ended, behind⟩ := exists_of_bind_eq_ok done
  obtain ⟨r, token, rfl⟩ := exists_of_map_eq_ok behind
  refine (unended.endDocument ended).emit ?_
  unfold readDirective at token
  split at token
  next => cases token
  next =>
    obtain ⟨c, _, rfl⟩ := exists_of_map_eq_ok token
    exact nofun

theorem Unended.marker (done : l.marker t = .ok m) (inside : t ≠ .streamEnd) : Unended m := by
  obtain ⟨n, ended, rfl⟩ := exists_of_map_eq_ok done
  exact (unended.endDocument ended).emitOver inside 3

theorem Unended.flowEntry (done : l.flowEntry = .ok m) : Unended m := by
  obtain ⟨n, dropped, rfl⟩ := exists_of_map_eq_ok done
  exact Unended.emit (unended.of_tokens (tokens_dropPending dropped)) nofun

theorem Unended.blockEntry (done : l.blockEntry = .ok m) : Unended m := by
  unfold Lexer.blockEntry at done
  split at done
  next => cases done
  next =>
    obtain ⟨n, dropped, rfl⟩ := exists_of_map_eq_ok done
    refine Unended.emit (Unended.of_tokens ?_ (tokens_dropPending dropped)) nofun
    split
    next => exact unended.openBlock nofun
    next => exact unended

theorem Unended.keyMark (done : l.keyMark = .ok m) : Unended m := by
  unfold Lexer.keyMark at done
  split at done
  next => cases done
  next =>
    obtain ⟨n, dropped, rfl⟩ := exists_of_map_eq_ok done
    refine Unended.emit (Unended.of_tokens ?_ (tokens_dropPending dropped)) nofun
    split
    next => exact unended.openBlock nofun
    next => exact unended

theorem Unended.valueMark (done : l.valueMark = .ok m) : Unended m := by
  unfold Lexer.valueMark at done
  split at done
  next k _ =>
    cases done
    exact (unended.completeKey k).emit nofun
  next =>
    split at done
    next => cases done
    next =>
      cases done
      refine Unended.emit (t := .value) ?_ nofun
      split
      next => exact unended.openBlock nofun
      next => exact unended

theorem Unended.blockScalar {folded : Bool} (done : l.blockScalar folded = .ok m) : Unended m := by
  obtain ⟨n, dropped, behind⟩ := exists_of_bind_eq_ok done
  obtain ⟨r, _, rfl⟩ := exists_of_map_eq_ok behind
  exact Unended.emit (unended.of_tokens (tokens_dropPending dropped)) nofun

theorem Unended.plainScalar (done : l.plainScalar = .ok m) : Unended m := by
  obtain ⟨n, saved, rfl⟩ := exists_of_map_eq_ok done
  exact Unended.emit (unended.of_tokens (tokens_savePending saved)) nofun

theorem Unended.readToken (c : CodePoint) : Leaves (l.readToken c) := by
  unfold Lexer.readToken
  repeat' with_reducible apply Leaves.ite
  next => exact fun _ => unended.directive
  next => exact fun _ done => unended.marker done (by split <;> exact nofun)
  next => exact fun _ done => unended.openFlow done nofun
  next => exact fun _ done => unended.openFlow done nofun
  next => exact fun _ done => unended.closeFlow done nofun
  next => exact fun _ done => unended.closeFlow done nofun
  next => exact fun _ => unended.flowEntry
  next => exact fun _ => unended.blockEntry
  next => exact fun _ => unended.keyMark
  next => exact fun _ => unended.valueMark
  next =>
    refine fun _ done => unended.keyPart done fun read => ?_
    obtain ⟨_, _, rfl⟩ := exists_of_map_eq_ok read
    exact nofun
  next =>
    refine fun _ done => unended.keyPart done fun read => ?_
    obtain ⟨_, _, rfl⟩ := exists_of_map_eq_ok read
    exact nofun
  next => exact fun _ done => unended.keyPart done ne_streamEnd_of_readTag
  next => exact fun _ => unended.blockScalar
  next => exact fun _ => unended.blockScalar
  next =>
    refine fun _ done => unended.keyPart done fun read => ?_
    obtain ⟨_, _, rfl⟩ := exists_of_map_eq_ok read
    exact nofun
  next => exact fun _ => unended.plainScalar
  next => exact nofun

end

/-! ## Scans -/

theorem beforeFault_eq_ok {fault : Option Error} (passed : beforeFault fault l = .ok m) :
    m = l := by
  unfold beforeFault at passed
  split at passed <;> cases passed
  rfl

/-- Only the last step is at the end of the text, and there may be no fault behind it. -/
theorem step_eq_ok {fault : Option Error} {fuel : Nat} {last : Bool} (unended : Unended l)
    (done : l.step fault fuel = .ok (m, last)) :
    if last then fault = none else Unended m := by
  unfold step at done
  split at done
  next => cases done
  next n ready =>
    obtain ⟨k, passed, dropped⟩ := exists_of_bind_eq_ok ready
    have before : Unended n := by
      refine unended.of_tokens ?_
      rw [tokens_dropLapsed dropped, beforeFault_eq_ok passed, tokens_skipGap, tokens_skipMark]
    split at done
    next ended =>
      obtain ⟨_, _, equal⟩ := exists_of_map_eq_ok done
      obtain ⟨-, rfl⟩ := Prod.mk.inj equal
      have nothing : k.cursor.rest = [] := by
        unfold dropLapsed at dropped
        split at dropped
        next => cases dropped
        next =>
          cases dropped
          exact ended
      cases fault with
      | none => rfl
      | some e =>
          obtain rfl := beforeFault_eq_ok passed
          simp only [beforeFault, nothing] at passed
          cases passed
    next c _ _ =>
      split at done
      next => cases done
      next => cases done
      next p read =>
        obtain ⟨_, behind, equal⟩ := exists_of_map_eq_ok done
        obtain ⟨rfl, rfl⟩ := Prod.mk.inj equal
        obtain ⟨q, passed', dropped'⟩ := exists_of_bind_eq_ok behind
        refine (before.unwind.readToken c _ read).of_tokens ?_
        rw [tokens_dropLapsed dropped', beforeFault_eq_ok passed']

/-- The tokens of the rest of a text without a fault, up to its end. -/
inductive Scans : Lexer → List Token → Prop where
  | last {l m : Lexer} {fuel : Nat} (done : l.step none (fuel + 1) = .ok (m, true)) :
      Scans l m.tokens.reverse
  | more {l m : Lexer} {fuel : Nat} {ts : List Token}
      (done : l.step none (fuel + 1) = .ok (m, false)) (rest : Scans m ts) : Scans l ts

/-- A run whose tokens have the end of the text is a scan of a text without a fault. -/
theorem scans_of_run {fault : Option Error} {fuel : Nat} (unended : Unended l)
    (ended : .streamEnd ∈ (l.run fault fuel).front) :
    Scans l (l.run fault fuel).front ∧ fault = none := by
  induction fuel generalizing l with
  | zero => exact absurd rfl (unended _ (List.mem_reverse.mp ended))
  | succ fuel ih =>
      rw [run] at ended ⊢
      cases done : l.step fault (fuel + 1) with
      | error e =>
          rw [done] at ended
          exact absurd rfl (unended _ (List.mem_reverse.mp (List.mem_of_mem_take ended)))
      | ok r =>
          obtain ⟨m, last⟩ := r
          have after := step_eq_ok unended done
          rw [done] at ended
          cases last with
          | true =>
              obtain rfl : fault = none := after
              exact ⟨.last done, rfl⟩
          | false =>
              obtain ⟨rest, rfl⟩ := ih after ended
              exact ⟨.more done rest, rfl⟩

end Lexer

end Yaml

end Autoscaler
