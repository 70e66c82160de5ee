import DevyFps.Server.CombatSimulation
import DevyFps.Shared.Net.JsonNumbers
import DevyFps.Shared.Net.Protocol

/-! How the hits and deaths of a tick are told: each hit in a message of its own and, with the
deaths, in the next snapshot. -/

namespace DevyFps.Server

open Foundations Net

variable {F : Type} [SingleFloat F]

/-- The text of a `std::string` in a document. Text that is not UTF-8 has none. -/
def textOfBytes (text : Bytes) : Document F :=
  .string ((String.fromUTF8? ⟨text.toArray⟩).getD "")

def ofUnsigned (n : Nat) : Document F := .numberUnsigned (UInt64.ofNat n)

def ofSigned (n : Int) : Document F := .numberInteger (Int64.ofInt n)

def damageToSnapshotEvent (event : DamageResolution) : Document F :=
  .object
    [("attacker_id", ofUnsigned event.attackerId), ("damage", ofSigned event.damage),
      ("lethal", .boolean event.lethal), ("shot_seq", ofUnsigned event.shotSeq),
      ("tick", ofUnsigned event.tick), ("type", .string "damage_event"),
      ("victim_health", ofSigned event.victimHealth), ("victim_id", ofUnsigned event.victimId),
      ("weapon_id", textOfBytes event.weaponId)]

def deathToSnapshotEvent (event : DeathResolution) : Document F :=
  .object
    [("killer_id", ofUnsigned event.killerId), ("shot_seq", ofUnsigned event.shotSeq),
      ("tick", ofUnsigned event.tick), ("type", .string "death_event"),
      ("victim_id", ofUnsigned event.victimId), ("weapon_id", textOfBytes event.weaponId)]

def toDamagePacket (event : DamageResolution) : Packet (SingleFloat.Double F) where
  type := .damageEvent
  payload := .object
    [("attacker_id", ofUnsigned event.attackerId), ("damage", ofSigned event.damage),
      ("lethal", .boolean event.lethal), ("shot_seq", ofUnsigned event.shotSeq),
      ("tick", ofUnsigned event.tick), ("victim_health", ofSigned event.victimHealth),
      ("victim_id", ofUnsigned event.victimId), ("weapon_id", textOfBytes event.weaponId)]

/-- The pending events of the snapshot with those of a tick, and the messages to broadcast. -/
def appendCombatOutputs (tickResult : CombatTickResult) (snapshotEvents : List (Document F)) :
    List (Document F) × List (Packet (SingleFloat.Double F)) :=
  (snapshotEvents ++ tickResult.damageEvents.map damageToSnapshotEvent ++
      tickResult.deathEvents.map deathToSnapshotEvent,
    tickResult.damageEvents.map toDamagePacket)

/-- The values fit the types of their fields. -/
structure DamageResolution.Fits (event : DamageResolution) : Prop where
  tick : event.tick < 2 ^ 64
  attackerId : event.attackerId < 2 ^ 32
  victimId : event.victimId < 2 ^ 32
  shotSeq : event.shotSeq < 2 ^ 32
  damage : -2 ^ 31 ≤ event.damage ∧ event.damage < 2 ^ 31

theorem readU32_ofUnsigned {n : Nat} (h : n < 2 ^ 32) :
    readU32 (ofUnsigned n : Document F) = some n := by
  have hSame : (UInt64.ofNat n).toNat = n := UInt64.toNat_ofNat_of_lt' (h.trans (by decide))
  change (if (UInt64.ofNat n).toNat ≤ 2 ^ 32 - 1 then some (UInt64.ofNat n).toNat else none) = _
  rw [hSame, if_pos (by omega)]

theorem readU64_ofUnsigned {n : Nat} (h : n < 2 ^ 64) :
    readU64 (ofUnsigned n : Document F) = some n :=
  congrArg some (UInt64.toNat_ofNat_of_lt' h)

theorem readI32_ofSigned {n : Int} (h : -2 ^ 31 ≤ n ∧ n < 2 ^ 31) :
    readI32 (ofSigned n : Document F) = some n := by
  have hSame : (Int64.ofInt n).toInt = n :=
    Int64.toInt_ofInt_of_le (by omega) (by omega)
  change (if (Int64.ofInt n).toInt < -2 ^ 31 ∨ (Int64.ofInt n).toInt > 2 ^ 31 - 1 then none
    else some (Int64.ofInt n).toInt) = _
  rw [hSame, if_neg (by omega)]

end DevyFps.Server
