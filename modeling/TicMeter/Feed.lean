import TicMeter.Wire

/-!
# Feed — where bytes come from

A `ByteSource` hands out one byte at a time and may run dry or fail. Two sources serve a script of
reads: `DirectFeed` reads the device once for every byte and passes everything on, `BufferedFeed`
reads ahead in blocks, repeats interrupted reads, and stays closed once the device has closed.
-/

namespace TicMeter

inductive SourceError
  | io (cause : String)
  deriving DecidableEq, Repr

namespace SourceError

def message : SourceError → String
  | .io cause => "I/O error: " ++ cause

end SourceError

inductive Pull
  | byte (b : UInt8)
  | dry
  | failed (why : SourceError)
  deriving DecidableEq, Repr

/-- A source of bytes. It holds finitely many, and every byte it hands out leaves it fewer. -/
class ByteSource (σ : Type) where
  pull : σ → Pull × σ
  remaining : σ → Nat
  remaining_lt : ∀ s b, (pull s).1 = .byte b → remaining (pull s).2 < remaining s

namespace ByteSource

variable {σ : Type} [ByteSource σ]

def answers : Nat → σ → List Pull
  | 0, _ => []
  | n + 1, s =>
      let (answer, s) := pull s
      answer :: answers n s

/-- The bytes up to the next answer that is none, and that answer; `taken` are the bytes so far,
newest first. -/
def collect (s : σ) (taken : List UInt8) : List UInt8 × Pull :=
  match _hpull : pull s with
  | (.byte b, s) => collect s (b :: taken)
  | (answer, _) => (taken.reverse, answer)
  termination_by remaining s
  decreasing_by
    have := remaining_lt _ b (by rw [_hpull])
    simpa [_hpull] using this

end ByteSource

/-! ## Scripts of reads -/

/-- What a device does next. A block of bytes serves as many reads as it takes to use it up. -/
inductive DeviceAct
  | bytes (block : List UInt8)
  | close
  | interrupt
  | fail (cause : String)
  deriving DecidableEq, Repr

/-- What a device will do, in order; after the last act it is closed. -/
abbrev Script := List DeviceAct

namespace Script

def byteCount : Script → Nat
  | [] => 0
  | .bytes block :: rest => block.length + byteCount rest
  | _ :: rest => byteCount rest

end Script

/-- A device that is read once for every byte. -/
structure DirectFeed where
  script : Script
  deriving DecidableEq, Repr

namespace DirectFeed

def pullFrom : Script → Pull × Script
  | [] => (.dry, [])
  | .bytes [] :: rest => pullFrom rest
  | .bytes (b :: block) :: rest => (.byte b, .bytes block :: rest)
  | .close :: rest => (.dry, rest)
  | .interrupt :: rest => (.failed (.io "interrupted"), rest)
  | .fail cause :: rest => (.failed (.io cause), rest)

theorem byteCount_pullFrom (script : Script) (b : UInt8) (h : (pullFrom script).1 = .byte b) :
    Script.byteCount (pullFrom script).2 < script.byteCount := by
  fun_induction pullFrom script with
  | case2 rest ih => simpa [Script.byteCount] using ih h
  | case3 => simp [Script.byteCount]
  | _ => simp at h

instance : ByteSource DirectFeed where
  pull feed := let (answer, script) := pullFrom feed.script; (answer, ⟨script⟩)
  remaining feed := feed.script.byteCount
  remaining_lt feed b h := byteCount_pullFrom feed.script b h

end DirectFeed

/-- A device that is read in blocks of at most `capacity` bytes. -/
structure BufferedFeed where
  script : Script
  capacity : Nat
  /-- bytes read from the device and not yet handed out -/
  ahead : List UInt8
  closed : Bool
  deriving DecidableEq, Repr

namespace BufferedFeed

/-- A feed that has read nothing yet. A capacity of zero acts as one. -/
def ofScript (script : Script) (capacity : Nat) : BufferedFeed :=
  ⟨script, max capacity 1, [], false⟩

inductive Refill
  | block (b : UInt8) (ahead : List UInt8)
  | closed
  | failed (why : SourceError)
  deriving DecidableEq, Repr

/-- Reads the device until it gives bytes, closes or fails; interrupted reads are repeated. -/
def refill (capacity : Nat) : Script → Refill × Script
  | [] => (.closed, [])
  | .bytes [] :: rest => refill capacity rest
  | .bytes (b :: block) :: rest =>
      -- one byte is handed out at once, the rest of the read is kept ahead
      (.block b (block.take (capacity - 1)), .bytes (block.drop (capacity - 1)) :: rest)
  | .close :: rest => (.closed, rest)
  | .interrupt :: rest => refill capacity rest
  | .fail cause :: rest => (.failed (.io cause), rest)

/-- The next byte: from those read ahead, else by a refill while the device is open. -/
def pull (feed : BufferedFeed) : Pull × BufferedFeed :=
  match feed.ahead with
  | b :: ahead => (.byte b, { feed with ahead })
  | [] =>
      if feed.closed then (.dry, feed)
      else
        match refill feed.capacity feed.script with
        | (.block b ahead, script) => (.byte b, { feed with script, ahead })
        | (.closed, script) => (.dry, { feed with script, closed := true })
        | (.failed why, script) => (.failed why, { feed with script })

def remaining (feed : BufferedFeed) : Nat :=
  feed.ahead.length + feed.script.byteCount

theorem byteCount_refill (capacity : Nat) (script : Script) (b : UInt8) (ahead : List UInt8)
    (h : (refill capacity script).1 = .block b ahead) :
    ahead.length + Script.byteCount (refill capacity script).2 < script.byteCount := by
  fun_induction refill capacity script with
  | case2 rest ih => simpa [Script.byteCount] using ih h
  | case3 b block rest =>
    simp only [Refill.block.injEq] at h
    obtain ⟨-, rfl⟩ := h
    simp only [Script.byteCount, List.length_take, List.length_drop, List.length_cons]
    omega
  | case5 rest ih => simpa [Script.byteCount] using ih h
  | _ => simp at h

theorem remaining_pull (feed : BufferedFeed) (b : UInt8) (h : (pull feed).1 = .byte b) :
    remaining (pull feed).2 < remaining feed := by
  have key := byteCount_refill feed.capacity feed.script
  unfold pull at h ⊢
  split
  · next _ ahead hahead => simp [remaining, hahead]
  · next hahead =>
    simp only [hahead] at h
    split
    · next hclosed => simp [hclosed] at h
    · next hclosed =>
      simp only [hclosed] at h
      cases hrefill : refill feed.capacity feed.script with
      | mk answer script =>
        cases answer with
        | block b ahead =>
          simp only [hrefill] at key
          simpa [remaining, hahead] using key b ahead rfl
        | closed => simp [hrefill] at h
        | failed why => simp [hrefill] at h

instance : ByteSource BufferedFeed where
  pull := pull
  remaining := remaining
  remaining_lt := remaining_pull

end BufferedFeed
end TicMeter
