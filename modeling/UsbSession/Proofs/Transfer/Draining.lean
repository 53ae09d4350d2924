import Mathlib.Data.List.TakeWhile
import UsbSession.Proofs.Overlap.Crowd
import UsbSession.Proofs.Life.Conduct

/-!
# Draining

What closing a session takes from its device. A session that is closed on a device that is still
there cancels what is pending and then reads until a read fails, 256 times at most, so that the next
session does not get what was meant for this one. It takes the copies that it reads and leaves the
others as they are. A session whose device is gone, or that is let go of while it is open, leaves
all of them.

How often a session reads is decided by the copies alone (`Session.consumes_drainUpTo`): neither the
options of the session nor what fails besides the reads make a difference.

* `Session.close_drains`: what closing does, in all of these cases.
-/

namespace UsbSession

open Traced (Does)

namespace Device

variable {d d' : Device} {n : Nat}

/-- Where all copies hold data, as many reads succeed as there are copies. -/
theorem readable_of_forall (h : ∀ c ∈ d.waiting, c.isData = true) :
    d.readable = d.waiting.length := by
  rw [readable, List.takeWhile_eq_self_iff.2 h]

/-- When all copies are taken, no item is left. -/
theorem Consumes.inbound_eq_nil (h : Consumes n d d') (hall : d.waiting.length ≤ n) :
    d'.inbound = [] := by
  have hwaiting : d'.inbound.spread = [] := h.waiting.trans (List.drop_eq_nil_of_le hall)
  exact Queue.pop?_eq_none_iff.1 (Queue.pop?_of_spread_nil hwaiting)

end Device

namespace Session

variable {s : Session}

/-- Closing an open session drains its device: after one cancel it reads with a buffer of 64 bytes
    and a timeout of 50 milliseconds, once more than reads succeed one after the other but 256 times
    at most, and then gives back what it holds. It takes just the copies that it has read; fewer
    than 256 that can all be read are gone then. Where the device is gone, or the session is only
    let go of, there is no cancel and no transfer. However it is closed, the session is closed then,
    and stays so. -/
theorem close_drains (h : s.state = .open) (p : Clocked) :
    let closed := { s with state := .closed }
    let reads := min 256 (1 + p.device.readable)
    let drain := Call.transfer s.binding.incoming.kind s.binding.incoming.address (.read 64) 50000
      false
    let left := { p.device with openHandles := p.device.openHandles - 1 }
    (∃ p', Does Entry.call? (s.perform (.close false)) p (.closed .closed, closed)
        (.cancel :: (List.replicate reads drain ++ s.giveBackCalls)) p' ∧
      left.Consumes reads p'.device ∧
      ((∀ c ∈ p.device.waiting, c.isData = true) → p.device.waiting.length < 256 →
        p'.device.inbound = [])) ∧
    Does Entry.call? (s.perform (.close true)) p (.closed .closed, closed) s.giveBackCalls
      ⟨left, p.now⟩ ∧
    Does Entry.call? s.drop p () s.giveBackCalls ⟨left, p.now⟩ ∧
    ∀ disconnected q, Does Entry.call? (closed.perform (.close disconnected)) q
      (.closed .closed, closed) [] q := by
  intro closed reads drain left
  obtain ⟨p', hclose, hconsumes⟩ := s.consumes_close h p
  refine ⟨⟨p', hclose.bind_pure (.pure _ _), hconsumes, fun hall hfew => ?_⟩,
    (s.does_close_disconnected h p).bind_pure (.pure _ _), s.does_drop_of_open h p,
    fun disconnected q => ?_⟩
  · refine hconsumes.inbound_eq_nil ?_
    change p.device.waiting.length ≤ reads
    have hreadable := Device.readable_of_forall hall
    omega
  · exact (closed.does_close_of_not_open nofun disconnected q).bind_pure (.pure _ _)

/-- After 255 reads that succeed, the last read that is permitted fails, and a copy behind it is
    left for the next session. -/
theorem close_drains_limit :
    let s := Crowd.plainSession
    let empty : Item Inbound := { answer := .data [], again := 254 }
    let stalled : Item Inbound := { answer := .failure .pipe }
    let last : Item Inbound := { answer := .data [1] }
    let p : Clocked := ⟨{ (default : Device) with inbound := [empty, stalled, last] }, 0⟩
    s.state = .open ∧ p.device.readable = 255 ∧
      ∃ p', Does Entry.call? (s.perform (.close false)) p
          (.closed .closed, { s with state := .closed })
          (.cancel :: (List.replicate 256 (.transfer .bulk 0x81 (.read 64) 50000 false) ++
            [.release 0, .close])) p' ∧ p'.device.waiting = [.data [1]] := by
  intro s empty stalled last p
  have hreadable : p.device.readable = 255 := by decide +kernel
  obtain ⟨p', hdoes, hconsumes, -⟩ := (close_drains (s := s) rfl p).1
  rw [hreadable] at hdoes hconsumes
  exact ⟨rfl, hreadable, p', hdoes, hconsumes.waiting.trans (by decide +kernel)⟩

end Session

end UsbSession
