import TicMeter.Proofs.Run

/-!
# Request — what a session asks of its source

`Session.next` runs on sources that hold finitely many bytes. `Session.Asks` tells a request on any
source, also on one that never ends, together with the answers of the source that it takes.

* `Session.asks_next`, `Session.Asks.next_eq`: on a source that holds finitely many bytes, such a
  request is `Session.next`.
* `Session.Requests.transfer`: requests depend on the answers of the source, not on the source.
* `Session.requests_of_bytes`: bytes are answered by their events, and what comes after them by what
  it leads to.
* `Session.ask_congr`: on sources that answer alike, sessions do too.
-/

namespace TicMeter

/-! ## Answers of a source -/

namespace ByteSource

variable {σ : Type}

/-- `Pulls pull s as t`: the source `s` gives the answers `as`, one a pull, and is then `t`. -/
inductive Pulls (pull : σ → Pull × σ) : σ → List Pull → σ → Prop
  | none (s : σ) : Pulls pull s [] s
  | next {s t u : σ} {a : Pull} {as : List Pull} :
      pull s = (a, t) → Pulls pull t as u → Pulls pull s (a :: as) u

namespace Pulls

variable {pull : σ → Pull × σ} {s t u : σ} {as bs : List Pull}

theorem append (hs : Pulls pull s as t) (ht : Pulls pull t bs u) : Pulls pull s (as ++ bs) u := by
  induction hs with
  | none => exact ht
  | next hpull _ ih => exact .next hpull (ih ht)

theorem split (h : Pulls pull s (as ++ bs) u) : ∃ t, Pulls pull s as t ∧ Pulls pull t bs u := by
  induction as generalizing s with
  | nil => exact ⟨s, .none s, h⟩
  | cons a as ih =>
    cases h with
    | next hpull hrest =>
      rcases ih hrest with ⟨t, has, hbs⟩
      exact ⟨t, .next hpull has, hbs⟩

end Pulls

variable [ByteSource σ] {s t : σ} {as : List Pull}

/-- Bytes that a source hands out are answers that it gives. -/
theorem yields_iff_pulls {bs : List UInt8} :
    Yields s bs t ↔ Pulls ByteSource.pull s (bs.map .byte) t := by
  constructor
  · intro h
    induction h with
    | none => exact .none _
    | byte hpull _ ih => exact .next hpull ih
  · intro h
    induction bs generalizing s with
    | nil =>
      cases h
      exact .none _
    | cons b bs ih =>
      cases h with
      | next hpull hrest => exact .byte hpull (ih hrest)

theorem pulls_answers (n : Nat) (s : σ) : ∃ t, Pulls ByteSource.pull s (answers n s) t := by
  induction n generalizing s with
  | zero => exact ⟨s, .none s⟩
  | succ n ih =>
    rcases ih (ByteSource.pull s).2 with ⟨t, hrest⟩
    exact ⟨t, .next rfl hrest⟩

theorem Pulls.answers_eq (h : Pulls ByteSource.pull s as t) : answers as.length s = as := by
  induction h with
  | none => rfl
  | next hpull _ ih => simp [answers, hpull, ih]

end ByteSource

/-- Bytes at the front of a block come out one by one. -/
theorem DirectFeed.pulls_bytes (as bs : List UInt8) (rest : Script) :
    ByteSource.Pulls ByteSource.pull (DirectFeed.mk (.bytes (as ++ bs) :: rest)) (as.map .byte)
      (DirectFeed.mk (.bytes bs :: rest)) := by
  induction as with
  | nil => exact .none _
  | cons a as ih => exact .next rfl ih

/-! ## One request -/

namespace Receiver

/-- What an answer of the source makes of the receiver, and what there is to answer in turn. -/
def hear (r : Receiver) : Pull → Receiver × Option Answer
  | .byte b => ((r.step b).next, (r.step b).event.map .event)
  | .dry => (r.sourceEnded.1, some .ended)
  | .failed why => ((r.sourceFailed why).1, some (.failed why))

end Receiver

namespace Session

open ByteSource (Pulls)

variable {σ : Type}

/-- `Asks pull s heard answer t`: on a source that is pulled by `pull`, a request to `s` takes the
answers `heard` of the source, is answered by `answer` and leaves `t`. -/
inductive Asks (pull : σ → Pull × σ) : Session σ → List Pull → Answer → Session σ → Prop
  /-- once the source has failed, nothing is asked of it -/
  | faulted {s : Session σ} : s.receiver.phase = .faulted → Asks pull s [] .ended s
  | answers {r : Receiver} {source rest : σ} {a : Pull} {answer : Answer} :
      r.phase ≠ .faulted → pull source = (a, rest) → (r.hear a).2 = some answer →
      Asks pull ⟨r, source⟩ [a] answer ⟨(r.hear a).1, rest⟩
  | listens {r : Receiver} {source rest : σ} {a : Pull} {heard : List Pull} {answer : Answer}
      {t : Session σ} :
      r.phase ≠ .faulted → pull source = (a, rest) → (r.hear a).2 = none →
      Asks pull ⟨(r.hear a).1, rest⟩ heard answer t → Asks pull ⟨r, source⟩ (a :: heard) answer t

namespace Asks

variable {τ : Type} {pull : σ → Pull × σ} {pull' : τ → Pull × τ} {s t t' : Session σ}
  {heard heard' : List Pull} {answer answer' : Answer}

theorem pulls (h : Asks pull s heard answer t) : Pulls pull s.source heard t.source := by
  induction h with
  | faulted _ => exact .none _
  | answers _ hpull _ => exact .next hpull (.none _)
  | listens _ hpull _ _ ih => exact .next hpull ih

/-- Only the answers of the source matter. -/
theorem transfer (h : Asks pull s heard answer t) {source source' : τ}
    (hpulls : Pulls pull' source heard source') :
    Asks pull' ⟨s.receiver, source⟩ heard answer ⟨t.receiver, source'⟩ := by
  induction h generalizing source with
  | faulted hphase =>
    cases hpulls with
    | none => exact .faulted hphase
  | answers hphase _ hanswer =>
    cases hpulls with
    | next hpull hrest =>
      cases hrest with
      | none => exact .answers hphase hpull hanswer
  | listens hphase _ hsilent _ ih =>
    cases hpulls with
    | next hpull hrest => exact .listens hphase hpull hsilent (ih hrest)

/-- A request has one outcome. -/
theorem unique (h : Asks pull s heard answer t) (h' : Asks pull s heard' answer' t') :
    heard = heard' ∧ answer = answer' ∧ t = t' := by
  -- pulling is a function, so both take the same answers up to the first that is answered in turn
  induction h generalizing heard' with
  | faulted hphase =>
    cases h' with
    | faulted _ => exact ⟨rfl, rfl, rfl⟩
    | answers hne _ _ => exact absurd hphase hne
    | listens hne _ _ _ => exact absurd hphase hne
  | answers hphase hpull hanswer =>
    cases h' with
    | faulted hfaulted => exact absurd hfaulted hphase
    | answers _ hpull' hanswer' =>
      rw [hpull] at hpull'
      cases hpull'
      rw [hanswer] at hanswer'
      cases hanswer'
      exact ⟨rfl, rfl, rfl⟩
    | listens _ hpull' hsilent _ =>
      rw [hpull] at hpull'
      cases hpull'
      rw [hanswer] at hsilent
      cases hsilent
  | listens hphase hpull hsilent _ ih =>
    cases h' with
    | faulted hfaulted => exact absurd hfaulted hphase
    | answers _ hpull' hanswer =>
      rw [hpull] at hpull'
      cases hpull'
      rw [hanswer] at hsilent
      cases hsilent
    | listens _ hpull' _ hrest =>
      rw [hpull] at hpull'
      cases hpull'
      rcases ih hrest with ⟨rfl, rfl, rfl⟩
      exact ⟨rfl, rfl, rfl⟩

end Asks

section Next

variable [ByteSource σ]

theorem asks_advance (s : Session σ) (said : List Notice) (h : s.receiver.phase ≠ .faulted) :
    ∃ heard, Asks ByteSource.pull s heard (s.advance said).answer (s.advance said).session := by
  fun_induction advance s said with
  | case1 s said b source hpull t said' e he =>
    have hanswer : (s.receiver.hear (.byte b)).2 = some (.event e) :=
      congrArg (Option.map Answer.event) he
    exact ⟨_, .answers h hpull hanswer⟩
  | case2 s said b source hpull t said' he ih =>
    rcases ih ((s.receiver.steps_step b).phase_ne_faulted h) with ⟨heard, hasks⟩
    have hsilent : (s.receiver.hear (.byte b)).2 = none := congrArg (Option.map Answer.event) he
    exact ⟨_, .listens h hpull hsilent hasks⟩
  | case3 s said source hpull receiver notices hended =>
    have hreceiver : (s.receiver.hear .dry).1 = receiver := congrArg Prod.fst hended
    rw [← hreceiver]
    exact ⟨_, .answers h hpull rfl⟩
  | case4 s said why source hpull receiver notices hfailed =>
    have hreceiver : (s.receiver.hear (.failed why)).1 = receiver := congrArg Prod.fst hfailed
    rw [← hreceiver]
    exact ⟨_, .answers h hpull rfl⟩

theorem asks_next (s : Session σ) :
    ∃ heard, Asks ByteSource.pull s heard s.next.answer s.next.session := by
  unfold next
  split
  · next hphase => exact ⟨[], .faulted hphase⟩
  · next hphase => exact asks_advance s [] hphase

/-- The outcome of a request is what `next` comes to. -/
theorem Asks.next_eq {s t : Session σ} {heard : List Pull} {answer : Answer}
    (h : Asks ByteSource.pull s heard answer t) : s.next.answer = answer ∧ s.next.session = t := by
  rcases asks_next s with ⟨_, hnext⟩
  rcases h.unique hnext with ⟨-, rfl, rfl⟩
  exact ⟨rfl, rfl⟩

end Next

/-! ## Requests in a row -/

/-- Requests in a row, with all that they take from the source and all their answers. -/
inductive Requests (pull : σ → Pull × σ) : Session σ → List Pull → List Answer → Session σ → Prop
  | none (s : Session σ) : Requests pull s [] [] s
  | more {s t u : Session σ} {heard later : List Pull} {answer : Answer} {answers : List Answer} :
      Asks pull s heard answer t → Requests pull t later answers u →
      Requests pull s (heard ++ later) (answer :: answers) u

namespace Requests

variable {τ : Type} {pull : σ → Pull × σ} {pull' : τ → Pull × τ} {s t u : Session σ}
  {heard later : List Pull} {answers answers' : List Answer}

theorem pulls (h : Requests pull s heard answers t) : Pulls pull s.source heard t.source := by
  induction h with
  | none => exact .none _
  | more hasks _ ih => exact hasks.pulls.append ih

/-- Only the answers of the source matter. -/
theorem transfer (h : Requests pull s heard answers t) {source source' : τ}
    (hpulls : Pulls pull' source heard source') :
    Requests pull' ⟨s.receiver, source⟩ heard answers ⟨t.receiver, source'⟩ := by
  induction h generalizing source with
  | none =>
    cases hpulls with
    | none => exact .none _
  | more hasks _ ih =>
    -- the other source gives what the first request took, and then what the later ones took
    rcases hpulls.split with ⟨middle, hfirst, hrest⟩
    exact .more (hasks.transfer hfirst) (ih hrest)

theorem append (hs : Requests pull s heard answers t) (ht : Requests pull t later answers' u) :
    Requests pull s (heard ++ later) (answers ++ answers') u := by
  induction hs with
  | none => exact ht
  | more hasks _ ih =>
    rw [List.append_assoc]
    exact .more hasks (ih ht)

end Requests

/-- An answer of the source that is not answered in turn goes to the request that comes next. -/
theorem Requests.listens {pull : σ → Pull × σ} {s t u : Session σ} {a : Pull} {heard : List Pull}
    {answer : Answer} {answers : List Answer} (hphase : s.receiver.phase ≠ .faulted)
    (hpull : pull s.source = (a, t.source)) (hhear : s.receiver.hear a = (t.receiver, Option.none))
    (h : Requests pull t heard (answer :: answers) u) :
    Requests pull s (a :: heard) (answer :: answers) u := by
  cases h with
  | more hasks hlater =>
    have hnext : t = ⟨(s.receiver.hear a).1, t.source⟩ := by rw [hhear]
    rw [hnext] at hasks
    exact .more (.listens hphase hpull (congrArg Prod.snd hhear) hasks) hlater

/-- Bytes are answered by their events, and then what comes after them by what it leads to. -/
theorem requests_of_bytes {pull : σ → Pull × σ} {r : Receiver} (h : r.phase ≠ .faulted)
    {source last rest : σ} {bytes : List UInt8}
    (hpulls : Pulls pull source (bytes.map .byte) last) {a : Pull} (hpull : pull last = (a, rest))
    {answer : Answer} (hanswer : ((r.after bytes).hear a).2 = some answer) :
    Requests pull ⟨r, source⟩ (bytes.map .byte ++ [a]) ((r.emits bytes).map .event ++ [answer])
      ⟨((r.after bytes).hear a).1, rest⟩ := by
  induction bytes generalizing r source with
  | nil =>
    cases hpulls with
    | none =>
      have hasks := Asks.answers h hpull hanswer
      simpa using Requests.more hasks (.none _)
  | cons b bytes ih =>
    cases hpulls with
    | @next _ middle _ _ _ hfirst hlater =>
      have hrest := ih ((r.steps_step b).phase_ne_faulted h) hlater hanswer
      cases hevent : (r.step b).event with
      | some e =>
        have hanswers : (r.hear (.byte b)).2 = some (.event e) :=
          congrArg (Option.map Answer.event) hevent
        have hrequests := Requests.more (.answers h hfirst hanswers) hrest
        simpa [Receiver.emits_cons, Receiver.after_cons, hevent] using hrequests
      | none =>
        have hhear : r.hear (.byte b) = ((r.step b).next, none) := by
          simp [Receiver.hear, hevent]
        rw [Receiver.emits_cons, hevent]
        -- the byte goes to the first request of those that follow, so there must be one
        cases hevents : (r.step b).next.emits bytes with
        | nil =>
          rw [hevents] at hrest
          exact hrest.listens (s := ⟨r, source⟩) h hfirst hhear
        | cons e events =>
          rw [hevents] at hrest
          exact hrest.listens (s := ⟨r, source⟩) h hfirst hhear

theorem Requests.single {pull : σ → Pull × σ} {s t : Session σ} {heard : List Pull}
    {answer : Answer} (h : Requests pull s heard [answer] t) : Asks pull s heard answer t := by
  cases h with
  | more hasks hlater =>
    cases hlater
    rw [List.append_nil]
    exact hasks

/-- Bytes that give no event leave the request to what the source answers after them. -/
theorem asks_of_silent {pull : σ → Pull × σ} {r : Receiver} (h : r.phase ≠ .faulted)
    {source last rest : σ} {bytes : List UInt8}
    (hpulls : Pulls pull source (bytes.map .byte) last) (hsilent : r.emits bytes = []) {a : Pull}
    (hpull : pull last = (a, rest)) {answer : Answer}
    (hanswer : ((r.after bytes).hear a).2 = some answer) :
    Asks pull ⟨r, source⟩ (bytes.map .byte ++ [a]) answer ⟨((r.after bytes).hear a).1, rest⟩ := by
  have hrequests := requests_of_bytes h hpulls hpull hanswer
  rw [hsilent] at hrequests
  exact hrequests.single

section Ask

variable {τ : Type} [ByteSource σ] [ByteSource τ]

/-- What `n` requests in a row are answered, and the session after them. -/
def ask : Nat → Session σ → List Answer × Session σ
  | 0, s => ([], s)
  | n + 1, s =>
      let reply := s.next
      let (answers, last) := ask n reply.session
      (reply.answer :: answers, last)

theorem length_ask (n : Nat) (s : Session σ) : (ask n s).1.length = n := by
  induction n generalizing s with
  | zero => rfl
  | succ n ih => exact congrArg Nat.succ (ih _)

theorem requests_ask (n : Nat) (s : Session σ) :
    ∃ heard, Requests ByteSource.pull s heard (ask n s).1 (ask n s).2 := by
  induction n generalizing s with
  | zero => exact ⟨[], .none s⟩
  | succ n ih =>
    rcases asks_next s with ⟨first, hasks⟩
    rcases ih s.next.session with ⟨later, hrest⟩
    exact ⟨first ++ later, .more hasks hrest⟩

theorem Requests.ask_eq {s t : Session σ} {heard : List Pull} {answers : List Answer}
    (h : Requests ByteSource.pull s heard answers t) : ask answers.length s = (answers, t) := by
  induction h with
  | none => rfl
  | more hasks _ ih =>
    rcases hasks.next_eq with ⟨rfl, rfl⟩
    simp [ask, ih]

/-- On sources that answer alike, sessions do too, and stand alike after every request. -/
theorem ask_congr {s : Session σ} {t : Session τ} (hreceiver : s.receiver = t.receiver)
    (h : ∀ n, ByteSource.answers n s.source = ByteSource.answers n t.source) (n : Nat) :
    (ask n s).1 = (ask n t).1 ∧ (ask n s).2.receiver = (ask n t).2.receiver := by
  rcases requests_ask n s with ⟨heard, hrequests⟩
  -- what one source has answered, the other one answers too
  have hanswers : ByteSource.answers heard.length t.source = heard := by
    rw [← h, hrequests.pulls.answers_eq]
  rcases ByteSource.pulls_answers heard.length t.source with ⟨rest, hpulls⟩
  rw [hanswers] at hpulls
  have hother := (hrequests.transfer hpulls).ask_eq
  rw [length_ask, hreceiver] at hother
  rw [hother]
  exact ⟨rfl, rfl⟩

end Ask

end Session
end TicMeter
