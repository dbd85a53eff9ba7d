import TicMeter.Proofs.Concatenation
import TicMeter.Proofs.Request

/-!
# Resumption — a source that runs dry and gives bytes again

A serial line that pauses looks like the end of the stream. The frame that is open then is dropped
and counted; nothing of it is left when bytes come in again.

* `Receiver.hear_shift`, `Session.requests_shift`: no answer of the source tells a receiver where it
  is, how many events it has given and what it has counted.
* `Receiver.sourceEnded_eq_shift`: after the end of the stream, these are all that is left.
* `Session.resumes_afresh`: what the end itself changes, and what is answered after it.
-/

namespace TicMeter

/-! ## Answers at a later place -/

def Answer.shift (offset events : Nat) : Answer → Answer
  | .event e => .event (e.shift offset events)
  | .ended => .ended
  | .failed why => .failed why

namespace Receiver

variable (offset events : Nat) (base : Stats)

theorem sourceEnded_shift (r : Receiver) :
    (r.shift offset events base).sourceEnded.1 = r.sourceEnded.1.shift offset events base := by
  cases hphase : r.phase <;>
    simp [sourceEnded, shift, hphase, Phase.shift, Stats.add_def, Stats.add, Nat.add_assoc]

theorem hear_shift (r : Receiver) (a : Pull) :
    (r.shift offset events base).hear a =
      ((r.hear a).1.shift offset events base, (r.hear a).2.map (Answer.shift offset events)) := by
  cases a with
  | byte b =>
    rcases step_shift offset events base r b with ⟨hnext, hevent⟩
    simp only [hear, hnext, hevent, Option.map_map]
    rfl
  | dry =>
    simp only [hear, sourceEnded_shift]
    rfl
  | failed why => rfl

theorem phase_shift_eq_faulted {r : Receiver} :
    (r.shift offset events base).phase = .faulted ↔ r.phase = .faulted := by
  cases hphase : r.phase <;> simp [shift, hphase, Phase.shift]

/-- Only its place, its number of events and its counters tell a receiver that has met the end of
the stream from a fresh one. -/
theorem sourceEnded_eq_shift (r : Receiver) :
    r.sourceEnded.1 = (fresh r.repair).shift r.position r.sequence r.sourceEnded.1.stats := by
  cases hphase : r.phase <;>
    simp [sourceEnded, shift, hphase, Phase.shift, fresh, Stats.add_def, Stats.add]

end Receiver

namespace Session

open ByteSource (Pulls)

variable {σ : Type}

/-- The session as it is after `offset` bytes, `events` events and the statistics `base` that its
receiver does not know of. -/
def shift (offset events : Nat) (base : Stats) (s : Session σ) : Session σ :=
  ⟨s.receiver.shift offset events base, s.source⟩

/-! ## Requests at a later place -/

section Shift

variable {pull : σ → Pull × σ} (offset events : Nat) (base : Stats) {s t : Session σ}
  {taken : List Pull} {answer : Answer} {answers : List Answer}

/-- A request to a session at a later place takes the same from the source. -/
theorem Asks.shift (h : Asks pull s taken answer t) :
    Asks pull (s.shift offset events base) taken (answer.shift offset events)
      (t.shift offset events base) := by
  induction h with
  | faulted hphase => exact .faulted ((Receiver.phase_shift_eq_faulted _ _ _).2 hphase)
  | @answers r source rest a answer hphase hpull hanswer =>
    have hhear := r.hear_shift offset events base a
    have hasks : Asks pull ⟨r.shift offset events base, source⟩ [a] (answer.shift offset events)
        ⟨((r.shift offset events base).hear a).1, rest⟩ := by
      refine .answers (mt (Receiver.phase_shift_eq_faulted _ _ _).1 hphase) hpull ?_
      rw [hhear, hanswer]
      rfl
    rw [hhear] at hasks
    exact hasks
  | @listens r source rest a _ _ _ hphase hpull hsilent _ ih =>
    have hhear := r.hear_shift offset events base a
    refine .listens (mt (Receiver.phase_shift_eq_faulted _ _ _).1 hphase) hpull ?_ ?_
    · rw [hhear, hsilent]
      rfl
    · rw [hhear]
      exact ih

/-- Every request to a session at a later place is one to the session itself. -/
theorem Asks.of_shift (h : Asks pull (s.shift offset events base) taken answer t) :
    ∃ (answer' : Answer) (t' : Session σ), Asks pull s taken answer' t' ∧
      answer = answer'.shift offset events ∧ t = t'.shift offset events base := by
  -- on the request, whose first state must be a variable for that
  generalize hs : s.shift offset events base = later at h
  induction h generalizing s with
  | faulted hphase =>
    rw [← hs] at hphase
    exact ⟨.ended, s, .faulted ((Receiver.phase_shift_eq_faulted _ _ _).1 hphase), rfl, hs.symm⟩
  | @answers _ _ rest a _ hphase hpull hanswer =>
    cases hs
    rw [Receiver.hear_shift] at hanswer
    rcases Option.map_eq_some_iff.1 hanswer with ⟨answer', hanswer', rfl⟩
    have hphase' := mt (Receiver.phase_shift_eq_faulted offset events base).2 hphase
    refine ⟨answer', _, .answers hphase' hpull hanswer', rfl, ?_⟩
    rw [Receiver.hear_shift]
    rfl
  | @listens _ _ rest a _ _ _ hphase hpull hsilent _ ih =>
    cases hs
    rw [Receiver.hear_shift] at hsilent
    have hphase' := mt (Receiver.phase_shift_eq_faulted offset events base).2 hphase
    have hlater : Session.shift offset events base ⟨(s.receiver.hear a).1, rest⟩ =
        ⟨((s.receiver.shift offset events base).hear a).1, rest⟩ := by
      rw [Receiver.hear_shift]
      rfl
    rcases ih hlater with ⟨answer', t', hasks, hanswer, ht⟩
    have hsilent' := Option.map_eq_none_iff.1 hsilent
    exact ⟨answer', t', .listens hphase' hpull hsilent' hasks, hanswer, ht⟩

/-- Requests in a row to a session at a later place are those to the session itself. -/
theorem requests_shift :
    Requests pull (s.shift offset events base) taken answers t ↔
      ∃ (answers' : List Answer) (t' : Session σ), Requests pull s taken answers' t' ∧
        answers = answers'.map (Answer.shift offset events) ∧ t = t'.shift offset events base := by
  constructor
  · intro h
    generalize hs : s.shift offset events base = later at h
    induction h generalizing s with
    | none => exact ⟨[], s, .none s, rfl, hs.symm⟩
    | more hasks _ ih =>
      rw [← hs] at hasks
      rcases hasks.of_shift with ⟨answer', t', hasks', rfl, rfl⟩
      rcases ih rfl with ⟨answers', u', hrequests, rfl, hu⟩
      exact ⟨answer' :: answers', u', .more hasks' hrequests, rfl, hu⟩
  · rintro ⟨answers', t', h, rfl, rfl⟩
    induction h with
    | none => exact .none _
    | more hasks _ ih => exact .more (hasks.shift offset events base) ih

end Shift

/-! ## After the end of the stream -/

/-- Once a source has run dry, more of the same changes nothing. -/
theorem requests_of_dry {pull : σ → Pull × σ} {r : Receiver} (h : r.phase = .seeking) (n : Nat)
    {source last : σ} (hpulls : Pulls pull source (List.replicate n .dry) last) {taken : List Pull}
    {answers : List Answer} {t : Session σ} (hlength : answers.length = n) :
    Requests pull ⟨r, source⟩ taken answers t ↔
      taken = List.replicate n .dry ∧ answers = List.replicate n .ended ∧ t = ⟨r, last⟩ := by
  have hhear : r.hear .dry = (r, some .ended) := by
    rcases r with ⟨repair, phase, position, sequence, stats⟩
    cases h
    rfl
  have hphase : r.phase ≠ .faulted := by simp [h]
  induction n generalizing source taken answers with
  | zero =>
    cases hpulls
    cases List.eq_nil_of_length_eq_zero hlength
    constructor
    · rintro ⟨⟩
      exact ⟨rfl, rfl, rfl⟩
    · rintro ⟨rfl, -, rfl⟩
      exact .none _
  | succ n ih =>
    rw [List.replicate_succ] at hpulls
    rcases List.exists_cons_of_length_eq_add_one hlength with ⟨first, later, rfl⟩
    cases hpulls with
    | @next _ middle _ _ _ hpull hrest =>
      have hasks : Asks pull ⟨r, source⟩ [.dry] .ended ⟨r, middle⟩ := by
        have key := Asks.answers hphase hpull (congrArg Prod.snd hhear)
        rw [hhear] at key
        exact key
      constructor
      · intro hrequests
        -- a request has one outcome, so the first one took the first dry answer
        cases hrequests with
        | more hasks' hlater =>
          rcases hasks'.unique hasks with ⟨rfl, rfl, rfl⟩
          rcases (ih hrest (Nat.succ.inj hlength)).1 hlater with ⟨rfl, rfl, rfl⟩
          exact ⟨rfl, rfl, rfl⟩
      · rintro ⟨rfl, hanswers, rfl⟩
        rcases List.cons.inj hanswers with ⟨rfl, hlater⟩
        exact .more hasks ((ih hrest (Nat.succ.inj hlength)).2 ⟨rfl, hlater, rfl⟩)

/-- A session whose source runs dry while a request waits for an event. The request is answered by
the end of the stream. Of the receiver, only the phase and, if a frame was open, the number of
truncated frames change. As long as the source stays dry, requests change nothing more. What is
answered on any source from then on is what a fresh session is answered on it, at a later place. -/
theorem resumes_afresh {pull : σ → Pull × σ} {s : Session σ} (hphase : s.receiver.phase ≠ .faulted)
    {bytes : List UInt8} {dry rest : σ} (hbytes : Pulls pull s.source (bytes.map .byte) dry)
    (hsilent : s.receiver.emits bytes = []) (hdry : pull dry = (.dry, rest)) :
    let before := s.receiver.after bytes
    let cutOff := if before.openStart?.isSome then 1 else 0
    let ended : Receiver :=
      { before with phase := .seeking, stats := before.stats + { framesTruncated := cutOff } }
    (∀ (taken : List Pull) (answer : Answer) (t : Session σ), Asks pull s taken answer t ↔
      taken = bytes.map .byte ++ [.dry] ∧ answer = .ended ∧ t = ⟨ended, rest⟩) ∧
    (∀ (n : Nat) (last : σ), Pulls pull rest (List.replicate n .dry) last →
      ∀ (taken : List Pull) (answers : List Answer) (t : Session σ), answers.length = n →
        (Requests pull ⟨ended, rest⟩ taken answers t ↔
          taken = List.replicate n .dry ∧ answers = List.replicate n .ended ∧ t = ⟨ended, last⟩)) ∧
    ∀ {τ : Type} (pull' : τ → Pull × τ) (source : τ) (taken : List Pull) (answers : List Answer)
      (t : Session τ), Requests pull' ⟨ended, source⟩ taken answers t ↔
        ∃ (afresh : List Answer) (u : Session τ),
          Requests pull' (.start s.receiver.repair source) taken afresh u ∧
          answers = afresh.map (Answer.shift ended.position ended.sequence) ∧
          t = u.shift ended.position ended.sequence ended.stats := by
  intro before cutOff ended
  have hended : before.sourceEnded.1 = ended := by
    have hstats := before.stats_sourceEnded
    cases hopen : before.phase <;>
      simp_all [Receiver.sourceEnded, ended, cutOff, Receiver.openStart?, Stats.add_def, Stats.add]
  refine ⟨?_, ?_, ?_⟩
  · intro taken answer t
    have hasks := asks_of_silent hphase hbytes hsilent hdry rfl
    have hhear : (before.hear .dry).1 = ended := hended
    rw [hhear] at hasks
    constructor
    · intro htaken
      exact htaken.unique hasks
    · rintro ⟨rfl, rfl, rfl⟩
      exact hasks
  · intro n last hpulls taken answers t hlength
    exact requests_of_dry rfl n hpulls hlength
  · intro τ pull' source taken answers t
    have hrepair : before.repair = s.receiver.repair := s.receiver.repair_after bytes
    -- what is left is a fresh receiver, but for its position, its number and its statistics
    have hshift := before.sourceEnded_eq_shift
    rw [hended, hrepair] at hshift
    have hsession : (⟨ended, source⟩ : Session τ) =
        (start s.receiver.repair source).shift ended.position ended.sequence ended.stats :=
      congrArg (Session.mk · source) hshift
    rw [hsession, requests_shift]

/-- A line pauses inside its second frame and comes back with a third one. -/
theorem resumes_afresh_paused :
    let front := Wire.stx :: GroupLine.encode "ADCO" "031762120162"
    let frame := front ++ [Wire.etx]
    let cut := [Wire.stx, Wire.lf, 0x41]
    let line := DirectFeed.mk [.bytes (frame ++ cut), .close, .close, .bytes frame]
    let answer (sequence start : Nat) : Answer :=
      .event (.rejected (.unclassifiable sequence ⟨start, start + frame.length⟩ [.adco]))
    ∃ s t u v : Session DirectFeed,
      Requests ByteSource.pull (.start .enabled line) (frame.map .byte) [answer 0 0] s ∧
      s.receiver.phase ≠ .faulted ∧ s.receiver.emits cut = [] ∧
      Asks ByteSource.pull s (cut.map .byte ++ [.dry]) .ended t ∧
      t.receiver.stats.framesTruncated = 1 ∧
      Requests ByteSource.pull t [.dry] [.ended] u ∧ u.receiver = t.receiver ∧
      Requests ByteSource.pull u (frame.map .byte) [answer 1 (frame.length + cut.length)] v := by
  intro front frame cut line answer
  -- a fresh session asked for the first event, whatever the device gives behind it
  have hframe (more : List UInt8) (rest : Script) :
      Requests ByteSource.pull (.start .enabled (DirectFeed.mk (.bytes (frame ++ more) :: rest)))
        (frame.map .byte) [answer 0 0]
        ⟨(Receiver.fresh .enabled).after frame, ⟨.bytes more :: rest⟩⟩ := by
    have hpulls := DirectFeed.pulls_bytes front (Wire.etx :: more) rest
    have hasks : Asks ByteSource.pull
        (.start .enabled (DirectFeed.mk (.bytes (front ++ Wire.etx :: more) :: rest)))
        (front.map .byte ++ [.byte Wire.etx]) (answer 0 0)
        ⟨(((Receiver.fresh .enabled).after front).hear (.byte Wire.etx)).1,
          ⟨.bytes more :: rest⟩⟩ :=
      asks_of_silent (Receiver.phase_fresh_ne_faulted _) hpulls (by decide +kernel) rfl
        (by decide +kernel)
    have hrequests := Requests.more hasks (.none _)
    simpa [frame, Receiver.after_append, Receiver.after_cons, Receiver.hear] using hrequests
  let paused : Script := [.close, .close, .bytes frame]
  let s : Session DirectFeed := ⟨(Receiver.fresh .enabled).after frame, ⟨.bytes cut :: paused⟩⟩
  have hphase : s.receiver.phase ≠ .faulted := by decide +kernel
  have hsilent : s.receiver.emits cut = [] := by decide +kernel
  have hcut : Pulls ByteSource.pull s.source (cut.map .byte) ⟨.bytes [] :: paused⟩ :=
    DirectFeed.pulls_bytes cut [] paused
  rcases resumes_afresh hphase hcut hsilent rfl with ⟨hasks, hstays, hafter⟩
  have hdry : Pulls ByteSource.pull (DirectFeed.mk [.close, .bytes frame])
      (List.replicate 1 .dry) ⟨[.bytes frame]⟩ := .next rfl (.none _)
  have hlater := hframe [] []
  rw [List.append_nil] at hlater
  refine ⟨s, _, _, _, hframe cut paused, hphase, hsilent, (hasks _ _ _).2 ⟨rfl, rfl, rfl⟩, ?_,
    (hstays 1 _ hdry _ _ _ rfl).2 ⟨rfl, rfl, rfl⟩, rfl,
    (hafter _ _ _ _ _).2 ⟨_, _, hlater, ?_, rfl⟩⟩
  · decide +kernel
  · decide +kernel

end Session
end TicMeter
