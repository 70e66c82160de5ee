import DevyFps.Foundations.Bytes

/-! Treasure definitions as they are loaded from the configuration. -/

namespace DevyFps.Game

open Foundations

structure TreasureDefinition where
  id : Bytes
  value : Int := 0
  weight : Int := 0
  rarity : Bytes := []
  deriving DecidableEq, Repr

end DevyFps.Game
