import TicMeter.Proofs.Accounting
import TicMeter.Proofs.Fragmentation
import TicMeter.Proofs.Resumption

/-!
# Handover — a stream that goes on with another session

A session takes no more from its source than it needs for its answer. So a source can be taken out of
it after an event and given to a fresh session; nothing of the stream is lost or read twice.

* `Receiver.LeftBy`: where an event leaves the receiver, by the byte that brought it out.
* `Session.Asks.hears`, `Session.Requests.hears`: the position counts the bytes that were taken.
* `Session.requests_of_isBetween`: between frames, a session answers as a fresh one at a later place.
* `BufferedFeed.normal_of_pulls`: what a feed has read ahead is still in it.
* `Session.hands_over`: all of this of a session after any requests.
-/

namespace TicMeter

def Pull.isByte : Pull → Bool
  | .byte _ => true
  | .dry | .failed _ => false

/-! ## The receiver -/

namespace Receiver

/-- Where the event leaves the receiver that the byte brought it out of. -/
inductive LeftBy (e : Event) : UInt8 → Receiver → Prop
  | closed {r : Receiver} : r.phase = .complete → r.position = e.span.stop → LeftBy e Wire.etx r
  | brokenOff {r : Receiver} :
      r.phase = .seeking → r.position = e.span.stop → LeftBy e Wire.eot r
  /-- the byte that cuts in is taken, and the frame that it opens begins behind the span -/
  | cutIn {r : Receiver} :
      r.phase = .reading ⟨e.span.stop, .empty, .empty⟩ → r.position = e.span.stop + 1 →
      LeftBy e Wire.stx r

theorem Steps.leftBy {r next : Receiver} {b : UInt8} {e : Event} (h : r.Steps b next (some e)) :
    LeftBy e b next := by
  cases h with
  | cutsIn frame _ hb =>
    subst hb
    exact .cutIn rfl rfl
  | givesUp frame _ hb =>
    subst hb
    exact .brokenOff rfl rfl
  | closes frame held stats notices _ hb _ =>
    subst hb
    have hspan := Event.span_ofFields held.fields ⟨frame.start, r.position + 1⟩ r.sequence
    apply LeftBy.closed rfl
    rw [hspan]
    rfl

/-- Unless a new frame has cut in, the receiver is between frames, and the next byte is the one
behind the span. -/
theorem LeftBy.isBetween {e : Event} {b : UInt8} {r : Receiver} (h : LeftBy e b r)
    (hb : b ≠ Wire.stx) : r.IsBetween ∧ r.position = e.span.stop := by
  cases h with
  | closed hphase hposition => exact ⟨.inr hphase, hposition⟩
  | brokenOff hphase hposition => exact ⟨.inl hphase, hposition⟩
  | cutIn _ _ => exact absurd rfl hb

/-- From `r` to `t` by hearing the answers `heard` of the source: they do not change whether checksums
are repaired, and the bytes among them are counted. -/
structure Hears (r : Receiver) (heard : List Pull) (t : Receiver) : Prop where
  repair : t.repair = r.repair
  position : t.position = r.position + heard.countP Pull.isByte

theorem Hears.nil (r : Receiver) : r.Hears [] r where
  repair := rfl
  position := rfl

theorem Hears.append {r t u : Receiver} {heard later : List Pull} (hr : r.Hears heard t)
    (ht : t.Hears later u) : r.Hears (heard ++ later) u where
  repair := ht.repair.trans hr.repair
  position := by
    rw [ht.position, hr.position, List.countP_append, Nat.add_assoc]

theorem repair_sourceEnded (r : Receiver) : r.sourceEnded.1.repair = r.repair := by
  cases hphase : r.phase <;> simp [sourceEnded, hphase]

/-- A receiver that has not failed counts every byte. -/
theorem hears_hear {r : Receiver} (h : r.phase ≠ .faulted) (a : Pull) :
    r.Hears [a] (r.hear a).1 := by
  cases a with
  | byte b =>
    have hstep := r.steps_step b
    exact ⟨hstep.repair_eq, hstep.position_eq h⟩
  | dry => exact ⟨r.repair_sourceEnded, r.position_sourceEnded⟩
  | failed why => exact ⟨rfl, rfl⟩

/-- Only bytes are answered by events. -/
theorem eq_byte_of_hear {r : Receiver} {a : Pull} {e : Event}
    (h : (r.hear a).2 = some (.event e)) : ∃ b, a = .byte b ∧ r.Steps b (r.hear a).1 (some e) := by
  cases a with
  | byte b =>
    rcases Option.map_eq_some_iff.1 h with ⟨e', hevent, hanswer⟩
    cases hanswer
    have hstep := r.steps_step b
    rw [hevent] at hstep
    exact ⟨b, rfl, hstep⟩
  | dry => cases h
  | failed why => cases h

theorem eq_byte_of_silent {r : Receiver} {a : Pull} (h : (r.hear a).2 = none) :
    ∃ b, a = .byte b := by
  cases a with
  | byte b => exact ⟨b, rfl⟩
  | dry => cases h
  | failed why => cases h

/-- Between frames, nothing but its place, its number of events and its counters tells a receiver
from a fresh one. -/
theorem IsBetween.hear_eq {r : Receiver} (h : r.IsBetween) (a : Pull) :
    r.hear a = ((fresh r.repair).shift r.position r.sequence r.stats).hear a := by
  have hseeking : (fresh r.repair).shift r.position r.sequence r.stats =
      { r with phase := .seeking } := by
    simp [shift, Phase.shift, fresh, Stats.add_def, Stats.add]
  rw [hseeking]
  rcases r with ⟨repair, phase, position, sequence, stats⟩
  -- a frame that has just been closed makes no difference to what comes next
  rcases h with h | h
  · cases h
    rfl
  · cases h
    cases a <;> rfl

end Receiver

/-! ## Requests -/

namespace Session

open ByteSource (Pulls)

variable {σ : Type} {pull : σ → Pull × σ} {s t : Session σ} {heard : List Pull}

/-- A request counts the bytes that it takes. -/
theorem Asks.hears {answer : Answer} (h : Asks pull s heard answer t) :
    s.receiver.Hears heard t.receiver := by
  induction h with
  | faulted _ => exact .nil _
  | @answers _ _ _ a _ hphase _ _ => exact Receiver.hears_hear hphase a
  | @listens _ _ _ a _ _ _ hphase _ _ _ ih => exact (Receiver.hears_hear hphase a).append ih

theorem Requests.hears {answers : List Answer} (h : Requests pull s heard answers t) :
    s.receiver.Hears heard t.receiver := by
  induction h with
  | none => exact .nil _
  | more hasks _ ih => exact hasks.hears.append ih

/-- A request that is answered by an event takes bytes, and nothing after the byte that brings the
event out. -/
theorem Asks.leftBy {e : Event} (h : Asks pull s heard (.event e) t) :
    ∃ (bytes : List UInt8) (b : UInt8), heard = (bytes ++ [b]).map .byte ∧
      Receiver.LeftBy e b t.receiver ∧ t.receiver.sequence = e.sequence + 1 := by
  generalize hanswer : Answer.event e = answer at h
  induction h with
  | faulted _ => cases hanswer
  | @answers r _ _ a _ _ _ hhear =>
    subst hanswer
    rcases Receiver.eq_byte_of_hear hhear with ⟨b, rfl, hstep⟩
    refine ⟨[], b, rfl, hstep.leftBy, ?_⟩
    rw [hstep.sequence_event e rfl]
    exact hstep.sequence_eq
  | @listens r _ _ a _ _ _ _ _ hsilent _ ih =>
    rcases Receiver.eq_byte_of_silent hsilent with ⟨first, rfl⟩
    rcases ih hanswer with ⟨bytes, b, rfl, hleft, hsequence⟩
    exact ⟨first :: bytes, b, rfl, hleft, hsequence⟩

/-- Receivers that hear everything alike are asked alike. -/
theorem Asks.congr {r r' : Receiver} (hr : r.phase ≠ .faulted) (hr' : r'.phase ≠ .faulted)
    (hhear : ∀ a, r.hear a = r'.hear a) {source : σ} {answer : Answer}
    (h : Asks pull ⟨r, source⟩ heard answer t) : Asks pull ⟨r', source⟩ heard answer t := by
  cases h with
  | faulted hphase => exact absurd hphase hr
  | answers _ hpull hanswer =>
    rw [hhear] at hanswer ⊢
    exact .answers hr' hpull hanswer
  | listens _ hpull hsilent hlater =>
    rw [hhear] at hsilent hlater
    exact .listens hr' hpull hsilent hlater

theorem Requests.congr {r r' : Receiver} (hr : r.phase ≠ .faulted) (hr' : r'.phase ≠ .faulted)
    (hhear : ∀ a, r.hear a = r'.hear a) {source : σ} {answers : List Answer}
    (h : Requests pull ⟨r, source⟩ heard answers t) :
    ∃ u, Requests pull ⟨r', source⟩ heard answers u := by
  cases h with
  | none => exact ⟨_, .none _⟩
  | more hasks hlater => exact ⟨_, .more (hasks.congr hr hr' hhear) hlater⟩

/-- Between frames, a session is answered as a fresh one on its source, at a later place. -/
theorem requests_of_isBetween {r : Receiver} (h : r.IsBetween) (source : σ)
    (answers : List Answer) :
    (∃ u, Requests pull ⟨r, source⟩ heard answers u) ↔
      ∃ afresh u, Requests pull (.start r.repair source) heard afresh u ∧
        answers = afresh.map (Answer.shift r.position r.sequence) := by
  let later := (Receiver.fresh r.repair).shift r.position r.sequence r.stats
  have hphase : r.phase ≠ .faulted := by
    rcases h with h | h <;> simp [h]
  have hlater : later.phase ≠ .faulted := by
    simp [later, Receiver.shift, Receiver.fresh, Phase.shift]
  have hsession : (⟨later, source⟩ : Session σ) =
      (start r.repair source).shift r.position r.sequence r.stats := rfl
  -- a receiver that has just closed a frame is in another phase, but hears alike
  have hcongr : (∃ u, Requests pull ⟨r, source⟩ heard answers u) ↔
      ∃ u, Requests pull ⟨later, source⟩ heard answers u := by
    constructor
    · rintro ⟨u, hrequests⟩
      exact hrequests.congr hphase hlater h.hear_eq
    · rintro ⟨u, hrequests⟩
      exact hrequests.congr hlater hphase fun a => (h.hear_eq a).symm
  rw [hcongr, hsession]
  constructor
  · rintro ⟨u, hrequests⟩
    rcases (requests_shift _ _ _).1 hrequests with ⟨afresh, u', hafresh, hanswers, -⟩
    exact ⟨afresh, u', hafresh, hanswers⟩
  · rintro ⟨afresh, u', hafresh, hanswers⟩
    exact ⟨_, (requests_shift _ _ _).2 ⟨afresh, u', hafresh, hanswers, rfl⟩⟩

end Session

/-! ## A feed that reads ahead -/

/-- Answers that a feed has given are the only ones that it no longer has. -/
theorem BufferedFeed.normal_of_pulls {feed rest : BufferedFeed} {heard : List Pull}
    (h : ByteSource.Pulls ByteSource.pull feed heard rest) :
    rest.normal = feed.normal.drop heard.length := by
  induction h with
  | none => rfl
  | @next feed middle _ a heard hpull _ ih =>
    have hmiddle : middle.normal = feed.normal.tail := by
      rw [← (pull_normal feed).2]
      exact congrArg (normal ·.2) hpull.symm
    calc _
        = middle.normal.drop heard.length := ih
      _ = feed.normal.tail.drop heard.length := by rw [hmiddle]
      _ = feed.normal.drop (heard.length + 1) := List.drop_tail

namespace Session

open ByteSource (Pulls)

/-- A session that has answered any requests has counted the bytes that it took from its source. If
the next answer is an event, then the byte that brings it out is the last thing taken: the position
is the end of the span, or one behind it when that byte opens a new frame. Any other source that says
the same up to there brings the same event. If no new frame was opened, a fresh session on the source
is answered from then on as the session would have been, with spans and numbers that begin anew. A
feed that has read ahead still gives all that was not taken from it. -/
theorem hands_over {σ : Type} {pull : σ → Pull × σ} {repair : AdpsRepair} {source : σ}
    {heard : List Pull} {answers : List Answer} {s : Session σ}
    (hs : Requests pull (.start repair source) heard answers s) :
    s.receiver.position = heard.countP Pull.isByte ∧
    (∀ {taken : List Pull} {e : Event} {t : Session σ}, Asks pull s taken (.event e) t →
      ∃ (bytes : List UInt8) (b : UInt8), taken = (bytes ++ [b]).map .byte ∧
        Receiver.LeftBy e b t.receiver ∧
        (∀ {τ : Type} {pull' : τ → Pull × τ} {source' rest : τ},
          Pulls pull' source' (heard ++ taken) rest →
          ∃ s', Requests pull' (.start repair source') heard answers s' ∧
            Asks pull' s' taken (.event e) ⟨t.receiver, rest⟩) ∧
        (b ≠ Wire.stx → ∀ (later : List Pull) (answers' : List Answer),
          (∃ u, Requests pull t later answers' u) ↔
            ∃ afresh u, Requests pull (.start repair t.source) later afresh u ∧
              answers' = afresh.map (Answer.shift e.span.stop (e.sequence + 1)))) ∧
    ∀ {script : Script} {capacity : Nat} {heard : List Pull} {answers : List Answer}
      {s : Session BufferedFeed},
      Requests ByteSource.pull (.start repair (.ofScript script capacity)) heard answers s →
      ∀ n, ByteSource.answers n s.source = (script.normal.drop heard.length).takeD n .dry := by
  refine ⟨?_, ?_, ?_⟩
  · have hposition := hs.hears.position
    simpa [start, Receiver.fresh] using hposition
  · intro taken e t hasks
    rcases hasks.leftBy with ⟨bytes, b, htaken, hleft, hsequence⟩
    refine ⟨bytes, b, htaken, hleft, ?_, ?_⟩
    · intro τ pull' source' rest hpulls
      -- the other source gives what the earlier requests took, and then what this one took
      rcases hpulls.split with ⟨middle, hheard, hrest⟩
      exact ⟨_, hs.transfer hheard, hasks.transfer hrest⟩
    · intro hb later answers'
      rcases hleft.isBetween hb with ⟨hbetween, hposition⟩
      have hrepair : t.receiver.repair = repair := hasks.hears.repair.trans hs.hears.repair
      have key : (∃ u, Requests pull t later answers' u) ↔ _ :=
        requests_of_isBetween hbetween t.source answers'
      rw [hrepair, hposition, hsequence] at key
      exact key
  · intro script capacity heard answers s hrequests n
    have hnormal := BufferedFeed.normal_of_pulls hrequests.pulls
    rw [BufferedFeed.answers_eq_normal, hnormal]
    rfl

/-- Two frames are read ahead at once. After the first one the feed is given to a fresh session, which
takes the second one for the first. -/
theorem hands_over_read_ahead :
    let frame := GroupLine.encodeFrame [("ADCO", "031762120162")]
    let script : Script := [.bytes (frame ++ frame)]
    let s : Session BufferedFeed := .start .disabled (.ofScript script Wire.readSize)
    let e : Event := .rejected (.unclassifiable 0 ⟨0, frame.length⟩ [.adco])
    ∃ (taken later : List Pull) (t u : Session BufferedFeed),
      Asks ByteSource.pull s taken (.event e) t ∧ t.receiver.position = taken.countP Pull.isByte ∧
      Asks ByteSource.pull (.start .disabled t.source) later (.event e) u ∧
      (∃ v, Requests ByteSource.pull t later [.event (e.shift frame.length 1)] v) ∧
      ∀ n, ByteSource.answers n t.source = (script.normal.drop taken.length).takeD n .dry := by
  intro frame script s e
  let t := s.next.session
  have hevent : s.next.answer = .event e := by decide +kernel
  have hagain : (start .disabled t.source).next.answer = .event e := by decide +kernel
  have hphase : t.receiver.phase = .complete := by decide +kernel
  rcases asks_next s with ⟨taken, hasks⟩
  rw [hevent] at hasks
  rcases asks_next (start .disabled t.source) with ⟨later, hlater⟩
  rw [hagain] at hlater
  have hrequests := Requests.more hasks (.none _)
  rw [List.append_nil] at hrequests
  rcases hands_over hrequests with ⟨hposition, -, hfeed⟩
  rcases hands_over (.none s) with ⟨-, hleaves, -⟩
  rcases hleaves hasks with ⟨bytes, b, -, hleft, -, hafresh⟩
  -- the first frame was closed in order, so no other one cut in
  have hb : b ≠ Wire.stx := by
    rintro rfl
    cases hleft with
    | cutIn hreading _ =>
      rw [hphase] at hreading
      cases hreading
  have hone := Requests.more hlater (.none _)
  rw [List.append_nil] at hone
  exact ⟨taken, later, t, _, hasks, hposition, hlater, (hafresh hb _ _).2 ⟨_, _, hone, rfl⟩,
    hfeed hrequests⟩

end Session
end TicMeter
