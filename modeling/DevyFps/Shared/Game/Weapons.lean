import DevyFps.Foundations.Bytes
import DevyFps.Foundations.Floating

/-! Weapon definitions as they are loaded from the configuration. -/

namespace DevyFps.Game

open Foundations FloatFormat

structure WeaponDefinition (F : Type) [SingleFloat F] where
  id : Bytes
  type : Bytes
  damage : Int := 0
  rateOfFire : F := ofRat 0
  pellets : Int := 0
  damagePerPellet : Int := 0
  rangeUnits : F := ofRat 0
  projectileSpeedUnitsPerSecond : F := ofRat 0

variable {F : Type} [SingleFloat F]

def isProjectileType (weapon : WeaponDefinition F) : Bool :=
  Bytes.lowercase weapon.type == Bytes.ofString "projectile"

/-- A projectile weapon with pellets deals the damage of all of them. -/
def weaponDamagePerShot (weapon : WeaponDefinition F) : SingleFloat.Double F :=
  if isProjectileType weapon && 0 < weapon.pellets && 0 < weapon.damagePerPellet then
    ofInt weapon.pellets * ofInt weapon.damagePerPellet
  else if 0 < weapon.damage then ofInt weapon.damage
  else ofRat 0

end DevyFps.Game
