import TicMeter.Receiver

/-!
# Session — a receiver on a source

`Session.next` pulls bytes until an event comes out or the source has no more; `Session.drain`
does so until the end. A failed source is reported once, and from then on the session is silent.
-/

namespace TicMeter

inductive Answer
  | event (e : Event)
  | ended
  | failed (why : SourceError)
  deriving DecidableEq

/-- The answer as an iterator gives it: after the last item there is none. -/
def Answer.item? : Answer → Option (Except SourceError Event)
  | .event e => some (.ok e)
  | .ended => none
  | .failed why => some (.error why)

structure Session (σ : Type) where
  receiver : Receiver
  source : σ

/-- An answer, the notices of the bytes it took, and the session after it. -/
structure Reply (σ : Type) where
  answer : Answer
  notices : List Notice
  session : Session σ

namespace Session

variable {σ : Type} [ByteSource σ]

def start (repair : AdpsRepair) (source : σ) : Session σ :=
  ⟨.fresh repair, source⟩

/-- Pulls bytes until something is to be answered; `said` are the notices so far, newest first. -/
def advance (s : Session σ) (said : List Notice) : Reply σ :=
  match _hpull : ByteSource.pull s.source with
  | (.byte b, source) =>
      let t := s.receiver.step b
      let said := t.notices.reverse ++ said
      match t.event with
      | some e => ⟨.event e, said.reverse, ⟨t.next, source⟩⟩
      | none => advance ⟨t.next, source⟩ said
  | (.dry, source) =>
      let (receiver, notices) := s.receiver.sourceEnded
      ⟨.ended, said.reverse ++ notices, ⟨receiver, source⟩⟩
  | (.failed why, source) =>
      let (receiver, notices) := s.receiver.sourceFailed why
      ⟨.failed why, said.reverse ++ notices, ⟨receiver, source⟩⟩
  termination_by ByteSource.remaining s.source
  decreasing_by
    have := ByteSource.remaining_lt s.source b (by rw [_hpull])
    simpa [_hpull] using this

/-- The next event. A faulted session does not touch its source. -/
def next (s : Session σ) : Reply σ :=
  match s.receiver.phase with
  | .faulted => ⟨.ended, [], s⟩
  | _ => s.advance []

/-! ## To the end -/

theorem remaining_advance (s : Session σ) (said : List Notice) (e : Event)
    (h : (s.advance said).answer = .event e) :
    ByteSource.remaining (s.advance said).session.source < ByteSource.remaining s.source := by
  fun_induction advance s said with
  | case1 s said b source hpull t said' e' he =>
    simpa [hpull] using ByteSource.remaining_lt s.source b (by rw [hpull])
  | case2 s said b source hpull t said' he ih =>
    have hlt := ByteSource.remaining_lt s.source b (by rw [hpull])
    simp only [hpull] at hlt
    exact Nat.lt_trans (ih h) hlt
  | _ => simp at h

/-- Every event uses up bytes. -/
theorem remaining_next (s : Session σ) (e : Event) (h : s.next.answer = .event e) :
    ByteSource.remaining s.next.session.source < ByteSource.remaining s.source := by
  unfold next at h ⊢
  split at h
  · simp at h
  · next hphase => simpa [hphase] using remaining_advance s [] e h

inductive Ending
  | ended
  | failed (why : SourceError)
  deriving DecidableEq

structure Drained (σ : Type) where
  /-- the events, each with the notices of the bytes it took -/
  events : List (Event × List Notice)
  ending : Ending
  /-- the notices after the last event -/
  notices : List Notice
  session : Session σ

def drain (s : Session σ) : Drained σ :=
  match _hnext : s.next with
  | ⟨.event e, notices, rest⟩ =>
      let drained := rest.drain
      { drained with events := (e, notices) :: drained.events }
  | ⟨.ended, notices, rest⟩ => ⟨[], .ended, notices, rest⟩
  | ⟨.failed why, notices, rest⟩ => ⟨[], .failed why, notices, rest⟩
  termination_by ByteSource.remaining s.source
  decreasing_by
    have := remaining_next s e (by rw [_hnext])
    simpa [_hnext] using this

end Session
end TicMeter
