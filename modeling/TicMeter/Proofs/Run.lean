import TicMeter.Proofs.Step
import TicMeter.Session

/-!
# Run — receivers on lists of bytes, and sessions as such runs

`Receiver.after` and `Receiver.emits` feed a list of bytes to a receiver: where it stands then, and
which events came out on the way.

* `Session.advance_run` and `Session.drain_run`: every answer of a session, over any source, is what
  such a run on the bytes that were pulled comes to.
* `Session.drain_of_yields`: all that is drained from a source hangs on the bytes that it yields,
  whatever kind of source it is.
-/

namespace TicMeter

/-! ## Runs of a receiver -/

namespace Receiver

def after (r : Receiver) : List UInt8 → Receiver
  | [] => r
  | b :: rest => (r.step b).next.after rest

def emits (r : Receiver) : List UInt8 → List Event
  | [] => []
  | b :: rest => (r.step b).event.toList ++ (r.step b).next.emits rest

@[simp] theorem after_nil (r : Receiver) : r.after [] = r := rfl

@[simp] theorem emits_nil (r : Receiver) : r.emits [] = [] := rfl

theorem after_cons (r : Receiver) (b : UInt8) (bs : List UInt8) :
    r.after (b :: bs) = (r.step b).next.after bs := rfl

theorem emits_cons (r : Receiver) (b : UInt8) (bs : List UInt8) :
    r.emits (b :: bs) = (r.step b).event.toList ++ (r.step b).next.emits bs := rfl

theorem after_append (r : Receiver) (as bs : List UInt8) :
    r.after (as ++ bs) = (r.after as).after bs := by
  induction as generalizing r with
  | nil => rfl
  | cons b rest ih => exact ih _

theorem emits_append (r : Receiver) (as bs : List UInt8) :
    r.emits (as ++ bs) = r.emits as ++ (r.after as).emits bs := by
  induction as generalizing r with
  | nil => rfl
  | cons b rest ih => simp [emits_cons, after_cons, ih]

theorem after_concat (r : Receiver) (bs : List UInt8) (b : UInt8) :
    r.after (bs ++ [b]) = ((r.after bs).step b).next := by
  rw [after_append, after_cons, after_nil]

theorem emits_concat (r : Receiver) (bs : List UInt8) (b : UInt8) :
    r.emits (bs ++ [b]) = r.emits bs ++ ((r.after bs).step b).event.toList := by
  rw [emits_append, emits_cons, emits_nil, List.append_nil]

/-! ### What a run keeps and counts -/

theorem repair_after (r : Receiver) (bs : List UInt8) : (r.after bs).repair = r.repair := by
  induction bs generalizing r with
  | nil => rfl
  | cons b rest ih => exact (ih _).trans (r.steps_step b).repair_eq

theorem sequence_after (r : Receiver) (bs : List UInt8) :
    (r.after bs).sequence = r.sequence + (r.emits bs).length := by
  induction bs generalizing r with
  | nil => rfl
  | cons b rest ih =>
    have hstep := (r.steps_step b).sequence_eq
    rw [after_cons, ih, hstep, emits_cons, List.length_append, Nat.add_assoc]

theorem after_phase_ne_faulted {r : Receiver} (h : r.phase ≠ .faulted) (bs : List UInt8) :
    (r.after bs).phase ≠ .faulted := by
  induction bs generalizing r with
  | nil => exact h
  | cons b rest ih => exact ih ((r.steps_step b).phase_ne_faulted h)

theorem position_after {r : Receiver} (h : r.phase ≠ .faulted) (bs : List UInt8) :
    (r.after bs).position = r.position + bs.length := by
  induction bs generalizing r with
  | nil => rfl
  | cons b rest ih =>
    have hstep := r.steps_step b
    rw [after_cons, ih (hstep.phase_ne_faulted h), hstep.position_eq h, List.length_cons]
    omega

section Fresh

variable (repair : AdpsRepair)

theorem phase_fresh_ne_faulted : (fresh repair).phase ≠ .faulted := by
  simp [fresh]

theorem phase_after_fresh_ne_faulted (bs : List UInt8) :
    ((fresh repair).after bs).phase ≠ .faulted :=
  after_phase_ne_faulted (phase_fresh_ne_faulted repair) bs

theorem position_after_fresh (bs : List UInt8) : ((fresh repair).after bs).position = bs.length := by
  rw [position_after (phase_fresh_ne_faulted repair)]
  exact Nat.zero_add _

end Fresh

end Receiver

/-! ## Bytes of a source -/

namespace ByteSource

variable {σ : Type} [ByteSource σ]

/-- `Yields s bs t`: pulled once for each of them, `s` hands out the bytes `bs` and is then `t`. -/
inductive Yields : σ → List UInt8 → σ → Prop
  | none (s : σ) : Yields s [] s
  | byte {s t u : σ} {b : UInt8} {bs : List UInt8} :
      pull s = (.byte b, t) → Yields t bs u → Yields s (b :: bs) u

theorem Yields.append {s t u : σ} {as bs : List UInt8} (hs : Yields s as t) (ht : Yields t bs u) :
    Yields s (as ++ bs) u := by
  induction hs with
  | none => exact ht
  | byte hpull _ ih => exact .byte hpull (ih ht)

/-- What a source yields up to the first answer that is no byte is determined. -/
theorem Yields.unique {s t u : σ} {as bs : List UInt8} (hs : Yields s as t) (hu : Yields s bs u)
    (ht : ∀ b, (pull t).1 ≠ .byte b) (hu' : ∀ b, (pull u).1 ≠ .byte b) : as = bs ∧ t = u := by
  induction hs generalizing bs with
  | none s =>
    cases hu with
    | none => exact ⟨rfl, rfl⟩
    | byte hpull _ => exact absurd (by rw [hpull]) (ht _)
  | byte hpull _ ih =>
    cases hu with
    | none => exact absurd (by rw [hpull]) (hu' _)
    | byte hpull' hrest =>
      rw [hpull] at hpull'
      cases hpull'
      rcases ih hrest ht with ⟨rfl, rfl⟩
      exact ⟨rfl, rfl⟩

end ByteSource

/-! ## Sessions -/

namespace Session

open ByteSource (Yields)

variable {σ : Type} [ByteSource σ]

/-- An answer and the session after it, told by a run of the receiver on the bytes `bs`, which left
the source at `source`. -/
def Tells (r : Receiver) (bs : List UInt8) (source : σ) (s : Session σ) : Answer → Prop
  | .event e => r.emits bs = [e] ∧ s = ⟨r.after bs, source⟩
  | .ended =>
      r.emits bs = [] ∧ ∃ dry, ByteSource.pull source = (.dry, dry) ∧
        s = ⟨(r.after bs).sourceEnded.1, dry⟩
  | .failed why =>
      r.emits bs = [] ∧ ∃ rest, ByteSource.pull source = (.failed why, rest) ∧
        s = ⟨((r.after bs).sourceFailed why).1, rest⟩

/-- One answer comes from one run of the receiver on the bytes that were pulled for it. -/
theorem advance_run (s : Session σ) (said : List Notice) :
    ∃ bs source, Yields s.source bs source ∧
      Tells s.receiver bs source (s.advance said).session (s.advance said).answer := by
  fun_induction advance s said with
  | case1 s said b source hpull t said' e he =>
    -- the byte that was pulled gives the event
    refine ⟨[b], source, .byte hpull (.none source), ?_⟩
    have hevent : (s.receiver.step b).event = some e := he
    simp [Tells, Receiver.emits, Receiver.after, hevent, t]
  | case2 s said b source hpull t said' he ih =>
    -- no event yet: the byte goes before those that the rest of the answer takes
    rcases ih with ⟨bs, source', hyields, htells⟩
    refine ⟨b :: bs, source', .byte hpull hyields, ?_⟩
    have hevent : (s.receiver.step b).event = none := he
    have hemits : s.receiver.emits (b :: bs) = t.next.emits bs := by
      simp [Receiver.emits_cons, hevent, t]
    have hafter : s.receiver.after (b :: bs) = t.next.after bs := rfl
    unfold Tells at htells ⊢
    rw [hemits, hafter]
    exact htells
  | case3 s said source hpull receiver notices hended =>
    refine ⟨[], s.source, .none s.source, ?_⟩
    simp [Tells, hpull, hended]
  | case4 s said why source hpull receiver notices hfailed =>
    refine ⟨[], s.source, .none s.source, ?_⟩
    simp [Tells, hpull, hfailed]

theorem next_run {s : Session σ} (h : s.receiver.phase ≠ .faulted) :
    ∃ bs source, Yields s.source bs source ∧
      Tells s.receiver bs source s.next.session s.next.answer := by
  have hnext : s.next = s.advance [] := by
    unfold next
    split
    · next hphase => exact absurd hphase h
    · rfl
  rw [hnext]
  exact advance_run s []

/-- How a drained session ended, told by a run of the receiver on the bytes `bs`. -/
def EndsAs (r : Receiver) (bs : List UInt8) (source : σ) (s : Session σ) : Ending → Prop
  | .ended =>
      ∃ dry, ByteSource.pull source = (.dry, dry) ∧ s = ⟨(r.after bs).sourceEnded.1, dry⟩
  | .failed why =>
      ∃ rest, ByteSource.pull source = (.failed why, rest) ∧
        s = ⟨((r.after bs).sourceFailed why).1, rest⟩

/-- Draining is one run of the receiver on all the bytes that the source yields. -/
theorem drain_run {s : Session σ} (h : s.receiver.phase ≠ .faulted) :
    ∃ bs source, Yields s.source bs source ∧
      s.drain.events.map Prod.fst = s.receiver.emits bs ∧
      EndsAs s.receiver bs source s.drain.session s.drain.ending := by
  fun_induction drain s with
  | case1 s e notices rest hnext drained ih =>
    -- the run to the first event goes before the run of the rest
    rcases next_run h with ⟨bs, source, hyields, htells⟩
    rw [hnext] at htells
    rcases htells with ⟨hemits, rfl⟩
    rcases ih (Receiver.after_phase_ne_faulted h bs) with ⟨bs', source', hyields', hevents, hends⟩
    refine ⟨bs ++ bs', source', hyields.append hyields', ?_, ?_⟩
    · rw [Receiver.emits_append, hemits, ← hevents]
      rfl
    · unfold EndsAs at hends ⊢
      rw [Receiver.after_append]
      exact hends
  | case2 s notices rest hnext =>
    rcases next_run h with ⟨bs, source, hyields, htells⟩
    rw [hnext] at htells
    exact ⟨bs, source, hyields, htells.1.symm, htells.2⟩
  | case3 s why notices rest hnext =>
    rcases next_run h with ⟨bs, source, hyields, htells⟩
    rw [hnext] at htells
    exact ⟨bs, source, hyields, htells.1.symm, htells.2⟩

/-- What is drained from a source that yields `bs` and then runs dry. -/
theorem drain_of_yields {s : Session σ} (h : s.receiver.phase ≠ .faulted) {bs : List UInt8}
    {t dry : σ} (hyields : Yields s.source bs t) (hdry : ByteSource.pull t = (.dry, dry)) :
    s.drain.events.map Prod.fst = s.receiver.emits bs ∧ s.drain.ending = .ended ∧
      s.drain.session = ⟨(s.receiver.after bs).sourceEnded.1, dry⟩ := by
  rcases drain_run h with ⟨bs', source, hyields', hevents, hends⟩
  -- a drained session has stopped where its source had no byte, and so does `bs`
  have hstop : ∀ b, (ByteSource.pull source).1 ≠ .byte b := by
    unfold EndsAs at hends
    split at hends
    all_goals
      rcases hends with ⟨_, hpull, -⟩
      simp [hpull]
  rcases hyields'.unique hyields hstop (by simp [hdry]) with ⟨rfl, rfl⟩
  unfold EndsAs at hends
  split at hends
  · next hended =>
    rcases hends with ⟨dry', hpull, hsession⟩
    rw [hdry] at hpull
    cases hpull
    exact ⟨hevents, hended, hsession⟩
  · rcases hends with ⟨_, hpull, -⟩
    rw [hdry] at hpull
    cases hpull

/-! ### Sessions on given bytes -/

/-- A fresh session on the given bytes, read ahead in blocks as from a file. -/
def onBytes (repair : AdpsRepair) (bs : List UInt8) : Session BufferedFeed :=
  .start repair (.ofScript [.bytes bs] Wire.readSize)

end Session

namespace BufferedFeed

open ByteSource (Yields)

/-- A feed yields what it has read ahead and then the block that is left, whatever its capacity. -/
theorem yields_ahead_append (capacity : Nat) (bs ahead block : List UInt8)
    (h : ahead ++ block = bs) :
    Yields (σ := BufferedFeed) ⟨[.bytes block], capacity, ahead, false⟩ bs
      ⟨[.bytes []], capacity, [], false⟩ := by
  induction bs generalizing ahead block with
  | nil =>
    rcases List.append_eq_nil_iff.1 h with ⟨rfl, rfl⟩
    exact .none _
  | cons b rest ih =>
    cases ahead with
    | cons a ahead =>
      rcases List.cons.inj h with ⟨rfl, hrest⟩
      exact .byte rfl (ih ahead block hrest)
    | nil =>
      cases block with
      | nil => cases h
      | cons a block =>
        rcases List.cons.inj h with ⟨rfl, rfl⟩
        -- a refill hands out one byte and cuts the rest of the block in two
        exact .byte rfl (ih _ _ (List.take_append_drop (capacity - 1) block))

end BufferedFeed

namespace Session

/-- What is drained from given bytes is the run of a fresh receiver on them. -/
theorem drain_onBytes (repair : AdpsRepair) (bs : List UInt8) :
    (onBytes repair bs).drain.events.map Prod.fst = (Receiver.fresh repair).emits bs ∧
      (onBytes repair bs).drain.ending = .ended ∧
      (onBytes repair bs).drain.session.receiver =
        ((Receiver.fresh repair).after bs).sourceEnded.1 := by
  have hphase : (onBytes repair bs).receiver.phase ≠ .faulted := by
    simp [onBytes, start, Receiver.fresh]
  have hyields : ByteSource.Yields (onBytes repair bs).source bs
      ⟨[.bytes []], max Wire.readSize 1, [], false⟩ :=
    BufferedFeed.yields_ahead_append _ bs [] bs rfl
  rcases drain_of_yields hphase hyields rfl with ⟨hevents, hending, hsession⟩
  exact ⟨hevents, hending, by rw [hsession]; rfl⟩

end Session
end TicMeter
