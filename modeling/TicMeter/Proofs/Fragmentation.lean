import Mathlib.Data.List.Basic
import TicMeter.GroupLine
import TicMeter.Proofs.Request

/-!
# Fragmentation — how a device is read does not show

A buffered feed hands out what its script comes to (`Script.normal`), whatever its capacity. The
invariant is what the feed has still to say (`BufferedFeed.normal`): every pull takes the first of
it and leaves the rest.

* `BufferedFeed.pull_normal`: one pull.
* `BufferedFeed.answers_ofScript`: all pulls.
* `Session.ask_of_alike`: so sessions do not see how the bytes were cut into blocks, where reads
  were interrupted, and how large the blocks were that were read ahead.
-/

namespace TicMeter

namespace Script

/-- What a script comes to until its device closes: every byte and every failure in its place. -/
def normal : Script → List Pull
  | [] => []
  | .bytes block :: rest => block.map .byte ++ normal rest
  | .close :: _ => []
  | .interrupt :: rest => normal rest
  | .fail cause :: rest => .failed (.io cause) :: normal rest

/-- Scripts that differ in how bytes are cut into blocks, in where reads are interrupted, and in
what would come after the device has closed. -/
inductive Alike : Script → Script → Prop
  | refl (script : Script) : Alike script script
  | symm {s t : Script} : Alike s t → Alike t s
  | trans {s t u : Script} : Alike s t → Alike t u → Alike s u
  | act {s t : Script} (a : DeviceAct) : Alike s t → Alike (a :: s) (a :: t)
  | cut (as bs : List UInt8) (rest : Script) :
      Alike (.bytes (as ++ bs) :: rest) (.bytes as :: .bytes bs :: rest)
  | empty (rest : Script) : Alike (.bytes [] :: rest) rest
  | interrupt (rest : Script) : Alike (.interrupt :: rest) rest
  | close (rest : Script) : Alike (.close :: rest) []

theorem Alike.normal_eq {s t : Script} (h : s.Alike t) : s.normal = t.normal := by
  induction h with
  | refl => rfl
  | symm _ ih => exact ih.symm
  | trans _ _ ihs iht => exact ihs.trans iht
  | act a _ ih => cases a <;> simp [normal, ih]
  | cut as bs rest => simp [normal]
  | empty rest => rfl
  | interrupt rest => rfl
  | close rest => rfl

/-- The device that gives one answer in one act. -/
def actOf : Pull → DeviceAct
  | .byte b => .bytes [b]
  | .dry => .close
  | .failed (.io cause) => .fail cause

/-- A script is like the one that has an act for every byte and every failure. -/
theorem alike_normal (script : Script) : script.Alike (script.normal.map actOf) := by
  induction script with
  | nil => exact .refl []
  | cons a rest ih =>
    cases a with
    | bytes block =>
      -- the block is cut into blocks of one byte
      induction block with
      | nil => exact .trans (.empty rest) ih
      | cons b block ihBlock => exact .trans (.cut [b] block rest) (.act _ ihBlock)
    | close => exact .close rest
    | interrupt => exact .trans (.interrupt rest) ih
    | fail cause => exact .act _ ih

/-- Scripts are alike exactly when they come to the same. -/
theorem alike_iff {s t : Script} : s.Alike t ↔ s.normal = t.normal := by
  constructor
  · exact Alike.normal_eq
  · intro h
    have hs := s.alike_normal
    rw [h] at hs
    exact hs.trans t.alike_normal.symm

end Script

/-! ## The feed -/

namespace BufferedFeed

/-- What a refill has brought, before what the device has still to say. -/
def Refill.before : Refill → List Pull → List Pull
  | .block b ahead, rest => .byte b :: ahead.map .byte ++ rest
  | .closed, _ => []
  | .failed why, rest => .failed why :: rest

/-- A refill loses nothing, however much it reads at once. -/
theorem refill_before (capacity : Nat) (script : Script) :
    (refill capacity script).1.before (refill capacity script).2.normal = script.normal := by
  fun_induction refill capacity script with
  | case1 => rfl
  | case2 rest ih => simpa [Script.normal] using ih
  | case3 b block rest =>
    have hblock : (block.take (capacity - 1)).map Pull.byte ++
        (block.drop (capacity - 1)).map Pull.byte = block.map Pull.byte := by
      rw [← List.map_append, List.take_append_drop]
    simp only [Refill.before, Script.normal, List.map_cons, List.cons_append]
    rw [← hblock, List.append_assoc]
  | case4 rest => rfl
  | case5 rest ih => exact ih
  | case6 cause rest => rfl

/-- What the feed has still to say: the bytes read ahead, and then what its script comes to. -/
def normal (feed : BufferedFeed) : List Pull :=
  feed.ahead.map .byte ++ if feed.closed then [] else feed.script.normal

/-- A pull takes the first of what is still to be said; when there is nothing, the feed is dry. -/
theorem pull_normal (feed : BufferedFeed) :
    (pull feed).1 = feed.normal.headD .dry ∧ (pull feed).2.normal = feed.normal.tail := by
  rcases feed with ⟨script, capacity, ahead, closed⟩
  cases ahead with
  | cons b ahead => exact ⟨rfl, rfl⟩
  | nil =>
    cases closed with
    | true => exact ⟨rfl, rfl⟩
    | false =>
      -- what the feed says next is what a refill brings
      have hrefill := refill_before capacity script
      have hnormal : normal ⟨script, capacity, [], false⟩ = script.normal := rfl
      rw [hnormal, ← hrefill]
      simp only [pull]
      rcases refill capacity script with ⟨_ | _ | _, rest⟩
      · exact ⟨rfl, rfl⟩
      · exact ⟨rfl, rfl⟩
      · exact ⟨rfl, rfl⟩

theorem answers_eq_normal (n : Nat) (feed : BufferedFeed) :
    ByteSource.answers n feed = feed.normal.takeD n .dry := by
  induction n generalizing feed with
  | zero => rfl
  | succ n ih =>
    rcases pull_normal feed with ⟨hfirst, hrest⟩
    calc ByteSource.answers (n + 1) feed
        = (pull feed).1 :: ByteSource.answers n (pull feed).2 := rfl
      _ = feed.normal.headD .dry :: feed.normal.tail.takeD n .dry := by rw [ih, hfirst, hrest]
      _ = feed.normal.takeD (n + 1) .dry := rfl

/-- The feed says what the script comes to, and is dry from then on. -/
theorem answers_ofScript (script : Script) (capacity n : Nat) :
    ByteSource.answers n (ofScript script capacity) = script.normal.takeD n .dry :=
  answers_eq_normal n (ofScript script capacity)

end BufferedFeed

/-! ## The session -/

namespace Session

/-- A buffered feed says what its script comes to, and nothing else of the script and no capacity
shows in its answers or in those of a session that reads from it. -/
theorem ask_of_alike (script : Script) (capacity : Nat) :
    (∀ n, ByteSource.answers n (BufferedFeed.ofScript script capacity) =
      script.normal.takeD n .dry) ∧
    ∀ (script' : Script) (capacity' : Nat), script.Alike script' → ∀ n,
      ByteSource.answers n (BufferedFeed.ofScript script' capacity') =
          ByteSource.answers n (BufferedFeed.ofScript script capacity) ∧
        ∀ repair : AdpsRepair,
          let asked := ask n (.start repair (BufferedFeed.ofScript script capacity))
          let asked' := ask n (.start repair (BufferedFeed.ofScript script' capacity'))
          asked'.1 = asked.1 ∧ asked'.2.receiver = asked.2.receiver := by
  refine ⟨BufferedFeed.answers_ofScript script capacity, ?_⟩
  intro script' capacity' halike n
  have hanswers (k : Nat) : ByteSource.answers k (BufferedFeed.ofScript script' capacity') =
      ByteSource.answers k (BufferedFeed.ofScript script capacity) := by
    rw [BufferedFeed.answers_ofScript, BufferedFeed.answers_ofScript, Script.alike_iff.1 halike]
  refine ⟨hanswers n, ?_⟩
  intro repair asked asked'
  refine ask_congr ?_ hanswers n
  rfl

/-- A frame comes in two parts with an interruption between them and is read byte by byte, or comes
at once and is read ahead; the first device would go on after it has closed. -/
theorem ask_of_alike_interrupted :
    let frame := GroupLine.encodeFrame [("ADCO", "031762120162")]
    let script : Script :=
      [.bytes (frame.take 9), .interrupt, .bytes (frame.drop 9), .bytes [Wire.stx, 0x41],
        .fail "unplugged", .bytes [Wire.stx], .close, .bytes frame]
    let script' : Script :=
      [.bytes (frame ++ [Wire.stx, 0x41]), .interrupt, .fail "unplugged", .bytes [Wire.stx]]
    let said : List Pull :=
      frame.map .byte ++
        [.byte Wire.stx, .byte 0x41, .failed (.io "unplugged"), .byte Wire.stx]
    script.Alike script' ∧
      (∀ n, ByteSource.answers n (BufferedFeed.ofScript script 0) = said.takeD n .dry) ∧
      (ask 3 (.start .disabled (BufferedFeed.ofScript script' Wire.readSize))).1 =
        [.event (.rejected (.unclassifiable 0 ⟨0, frame.length⟩ [.adco])),
          .failed (.io "unplugged"), .ended] := by
  intro frame script script' said
  have hsaid : script.normal = said := by decide +kernel
  have halike : script.Alike script' := Script.alike_iff.2 (by decide +kernel)
  have hasked : (ask 3 (.start .disabled (BufferedFeed.ofScript script 0))).1 =
      [.event (.rejected (.unclassifiable 0 ⟨0, frame.length⟩ [.adco])),
        .failed (.io "unplugged"), .ended] := by
    decide +kernel
  rcases ask_of_alike script 0 with ⟨hanswers, hsame⟩
  rw [hsaid] at hanswers
  have hother := (hsame script' Wire.readSize halike 3).2 .disabled
  exact ⟨halike, hanswers, hother.1.trans hasked⟩

end Session
end TicMeter
