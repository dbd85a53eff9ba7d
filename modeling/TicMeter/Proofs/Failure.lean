import TicMeter.Proofs.Balance
import TicMeter.Proofs.Request
import TicMeter.Proofs.Tiling

/-!
# Failure — the failure of a source is the last that a session says

A source may fail in any state of the receiver and go on to give bytes afterwards. The request that
meets the failure passes it on, and no later one touches the source.

* `Session.requests_of_faulted`: after the failure, all requests together ask nothing of any source.
* `Session.fails_for_good`: what the failure itself changes, and what was answered before it.
-/

namespace TicMeter

def Stats.frameCounts (s : Stats) : List Nat :=
  [s.framesDecoded, s.framesRejected, s.framesInterrupted, s.framesTruncated]

/-- Bytes that give no event count no frame. -/
theorem Receiver.frameCounts_after {r : Receiver} (h : r.phase ≠ .faulted) {bytes : List UInt8}
    (hsilent : r.emits bytes = []) : (r.after bytes).stats.frameCounts = r.stats.frameCounts := by
  rcases framing_after h bytes with ⟨-, htruncated, hframes⟩
  rw [hsilent, List.length_nil] at hframes
  -- the sum of the counters stays, and none of them falls
  have hle := r.le_stats_after bytes
  have hdecoded := hle.framesDecoded
  have hrejected := hle.framesRejected
  have hinterrupted := hle.framesInterrupted
  simp only [Stats.frameCounts, List.cons.injEq, and_true]
  omega

namespace Session

open ByteSource (Pulls)

section Asks

variable {σ : Type} {pull : σ → Pull × σ}

theorem asks_of_faulted {s t : Session σ} (h : s.receiver.phase = .faulted) {heard : List Pull}
    {answer : Answer} (hasks : Asks pull s heard answer t) :
    heard = [] ∧ answer = .ended ∧ t = s :=
  hasks.unique (.faulted h)

/-- Once the source has failed, requests take nothing from it, give no event and change nothing,
and they are answered all the same. -/
theorem requests_of_faulted {s t : Session σ} (h : s.receiver.phase = .faulted) {heard : List Pull}
    {answers : List Answer} :
    Requests pull s heard answers t ↔
      heard = [] ∧ (∀ answer ∈ answers, answer = .ended ∧ answer.item? = none) ∧ t = s := by
  constructor
  · intro hrequests
    induction hrequests with
    | none => exact ⟨rfl, by simp, rfl⟩
    | more hasks _ ih =>
      rcases asks_of_faulted h hasks with ⟨rfl, rfl, rfl⟩
      rcases ih h with ⟨rfl, hanswers, rfl⟩
      refine ⟨rfl, ?_, rfl⟩
      intro answer hanswer
      rcases List.mem_cons.1 hanswer with rfl | hanswer
      · exact ⟨rfl, rfl⟩
      · exact hanswers answer hanswer
  · -- as many requests as there are answers
    rintro ⟨rfl, hanswers, rfl⟩
    induction answers with
    | nil => exact .none t
    | cons answer answers ih =>
      have hended := (hanswers answer (by simp)).1
      rw [hended]
      exact .more (.faulted h) (ih fun other hother => hanswers other (by simp [hother]))

end Asks

/-- A session whose source fails while a request waits for an event. The request passes the failure
on and ends there; no frame is counted for what it has read; the answers before are those of any
source that gave the same and ran dry instead. From then on requests, as many as there may be, are
answered by the end of the stream, on whatever source: they take nothing from it and change nothing.
-/
theorem fails_for_good {σ : Type} {pull : σ → Pull × σ} {repair : AdpsRepair} {source : σ}
    {heard : List Pull} {answers : List Answer} {s : Session σ}
    (hs : Requests pull (.start repair source) heard answers s)
    (hphase : s.receiver.phase ≠ .faulted) {bytes : List UInt8} {broken rest : σ}
    {why : SourceError} (hbytes : Pulls pull s.source (bytes.map .byte) broken)
    (hsilent : s.receiver.emits bytes = []) (hfails : pull broken = (.failed why, rest)) :
    let failed : Receiver := { s.receiver.after bytes with phase := .faulted }
    (∀ (taken : List Pull) (answer : Answer) (t : Session σ), Asks pull s taken answer t ↔
      taken = bytes.map .byte ++ [.failed why] ∧ answer = .failed why ∧ t = ⟨failed, rest⟩) ∧
    failed.stats.frameCounts = s.receiver.stats.frameCounts ∧
    (∀ {τ : Type} [ByteSource τ] (ending last : τ),
      Pulls ByteSource.pull ending (heard ++ bytes.map .byte ++ [.dry]) last →
      (ask (answers.length + 1) (.start repair ending)).1 = answers ++ [.ended]) ∧
    ∀ {τ : Type} (pull' : τ → Pull × τ) (other : τ) (taken : List Pull) (later : List Answer)
      (t : Session τ), Requests pull' ⟨failed, other⟩ taken later t ↔
        taken = [] ∧ (∀ answer ∈ later, answer = .ended ∧ answer.item? = none) ∧
          t = ⟨failed, other⟩ := by
  intro failed
  have hasks : Asks pull s (bytes.map .byte ++ [.failed why]) (.failed why) ⟨failed, rest⟩ :=
    asks_of_silent hphase hbytes hsilent hfails rfl
  refine ⟨?_, Receiver.frameCounts_after hphase hsilent, ?_, ?_⟩
  · intro taken answer t
    constructor
    · intro htaken
      exact htaken.unique hasks
    · rintro ⟨rfl, rfl, rfl⟩
      exact hasks
  · intro τ _ ending last hpulls
    rcases hpulls.split with ⟨dry, hgiven, hdry⟩
    rcases hgiven.split with ⟨middle, hbefore, hduring⟩
    have hend : ByteSource.pull dry = (.dry, last) := by
      cases hdry with
      | next hpull hnone =>
        cases hnone
        exact hpull
    -- the requests before the failure, and the one that meets the end in its place
    have hrequests := hs.transfer hbefore
    have hlast := asks_of_silent hphase hduring hsilent hend rfl
    have hask := (hrequests.append (.more hlast (.none _))).ask_eq
    rw [List.length_append, List.length_singleton] at hask
    exact congrArg Prod.fst hask
  · intro τ pull' other taken later t
    exact requests_of_faulted rfl

end Session

/-- A device is unplugged inside its second frame, and has a whole frame to give once it is plugged
in again. -/
theorem Session.fails_for_good_unplugged :
    let frame := GroupLine.encodeFrame [("ADCO", "031762120162")]
    let cut := [Wire.stx, Wire.lf, 0x41]
    let why : SourceError := .io "unplugged"
    let unplugged := DirectFeed.mk [.bytes (frame ++ cut), .fail "unplugged", .bytes frame]
    let first : Answer := .event (.rejected (.unclassifiable 0 ⟨0, frame.length⟩ [.adco]))
    ∃ s t : Session DirectFeed,
      Requests ByteSource.pull (.start .enabled unplugged) (frame.map .byte) [first] s ∧
      s.receiver.phase ≠ .faulted ∧ s.receiver.emits cut = [] ∧
      Asks ByteSource.pull s (cut.map .byte ++ [.failed why]) (.failed why) t ∧
      t.receiver.phase = .faulted ∧ t.receiver.stats.frameCounts = [0, 1, 0, 0] ∧
      (ask 2 (.start .enabled (DirectFeed.mk [.bytes (frame ++ cut)]))).1 = [first, .ended] ∧
      ∀ (taken : List Pull) (later : List Answer) (u : Session DirectFeed),
        Requests ByteSource.pull t taken later u → taken = [] ∧ u = t := by
  intro frame cut why unplugged first
  let broken : Script := [.fail "unplugged", .bytes frame]
  let s : Session DirectFeed :=
    ⟨(Receiver.fresh .enabled).after frame, ⟨.bytes cut :: broken⟩⟩
  have hs : Requests ByteSource.pull (.start .enabled unplugged) (frame.map .byte) [first] s := by
    have hpulls := DirectFeed.pulls_bytes frame.dropLast (Wire.etx :: cut) broken
    have hasks : Asks ByteSource.pull (.start .enabled unplugged)
        (frame.dropLast.map .byte ++ [.byte Wire.etx]) first s :=
      asks_of_silent (Receiver.phase_fresh_ne_faulted _) hpulls (by decide +kernel) rfl
        (by decide +kernel)
    exact .more hasks (.none s)
  have hphase : s.receiver.phase ≠ .faulted := by decide +kernel
  have hsilent : s.receiver.emits cut = [] := by decide +kernel
  have hcut : ByteSource.Pulls ByteSource.pull s.source (cut.map .byte) ⟨.bytes [] :: broken⟩ :=
    DirectFeed.pulls_bytes cut [] broken
  have hfails : ByteSource.pull (DirectFeed.mk (.bytes [] :: broken)) =
      (.failed why, DirectFeed.mk [.bytes frame]) := rfl
  rcases fails_for_good hs hphase hcut hsilent hfails with ⟨hasks, hcounts, hbefore, hafter⟩
  have hending : ByteSource.Pulls ByteSource.pull (DirectFeed.mk [.bytes (frame ++ cut)])
      (frame.map .byte ++ cut.map .byte ++ [.dry]) (DirectFeed.mk []) := by
    rw [← List.map_append]
    have hpulls := DirectFeed.pulls_bytes (frame ++ cut) [] []
    rw [List.append_nil] at hpulls
    exact hpulls.append (.next rfl (.none _))
  refine ⟨s, _, hs, hphase, hsilent, (hasks _ _ _).2 ⟨rfl, rfl, rfl⟩, rfl, ?_, ?_, ?_⟩
  · rw [hcounts]
    decide +kernel
  · exact hbefore _ _ hending
  · intro taken later u hrequests
    rcases (hafter _ _ _ _ _).1 hrequests with ⟨htaken, -, hu⟩
    exact ⟨htaken, hu⟩

end TicMeter
