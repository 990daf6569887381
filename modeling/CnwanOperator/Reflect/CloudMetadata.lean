import CnwanOperator.Go.Errors
import Mathlib.Data.List.Defs

/-! # Package `reflect`

`CloudMetadataRetriever` is the interface for what the cloud platform reports
about the cluster; nothing under the sources calls it yet. The record
`CloudMetadata` of package `fake`, meant to stand in for a real retriever in
tests, answers each getter from one of its fields, but its test is the wrong
way round: a getter fails unless its field holds the literal `error`, so the
only value a fake ever reports is `error`. -/

namespace CnwanOperator.Reflect

/-- `CloudMetadataRetriever`: what each of its getters returns. -/
structure CloudMetadataRetriever where
  getPlatformName : Except Error String
  getNetworkName : Except Error String
  getSubNetworkName : Except Error String
  getRegion : Except Error String
  getGCPProject : Except Error String

namespace Fake

structure CloudMetadata where
  platformName : String
  networkName : String
  subNetworkName : String
  region : String
  gcpProject : String
  deriving DecidableEq, Repr

/-- The body the five getters share, for the field each one reads. -/
def getField (field : String) : Except Error String :=
  if field ≠ "error" then .error (.other "error") else .ok field

namespace CloudMetadata

variable (c : CloudMetadata)

def getPlatformName : Except Error String := getField c.platformName

def getNetworkName : Except Error String := getField c.networkName

def getSubNetworkName : Except Error String := getField c.subNetworkName

def getRegion : Except Error String := getField c.region

def getGCPProject : Except Error String := getField c.gcpProject

/-- A fake as the interface sees it. -/
def toRetriever : CloudMetadataRetriever :=
  ⟨c.getPlatformName, c.getNetworkName, c.getSubNetworkName, c.getRegion, c.getGCPProject⟩

end CloudMetadata

theorem getField_eq (field : String) :
    getField field = .error (.other "error") ∨ (field = "error" ∧ getField field = .ok "error") := by
  by_cases named : field = "error"
  · exact .inr ⟨named, by rw [getField, if_neg fun different => different named, named]⟩
  · exact .inl (if_pos named)

end Fake

end CnwanOperator.Reflect
