import Dynet.Lib.Replay

/-! The replay window of one server session: the largest packet number accepted and one
bit for each of the 64 numbers up to it. -/
namespace Dynet.Shadowsocks
open Dynet.Lib.Replay

structure Error where
  stage : String
  message : String
  deriving DecidableEq, Repr

def windowBits : UInt64 := 64

structure ReplayWindow where
  latest : Option UInt64 := none
  seen : BitVec 64 := 0
  deriving DecidableEq, Repr

def replayError (message : String) : Error :=
  ⟨"outbound-crypto",s!"Shadowsocks 2022 UDP replay check failed: {message}"⟩

namespace ReplayWindow

def checkAndUpdate (window : ReplayWindow) (packetId : UInt64) : ReplayWindow × Except Error Unit :=
  match window.latest with
  | none => (⟨some packetId,1⟩,.ok ())
  | some latest =>
    if latest < packetId then
      let shift := packetId - latest
      let seen := if windowBits ≤ shift then 1 else window.seen <<< shift.toNat ||| 1
      (⟨some packetId,seen⟩,.ok ())
    else
      let behind := latest - packetId
      if windowBits ≤ behind then
        (window,.error (replayError "packet ID is outside the replay window"))
      else
        let bit := 1#64 <<< behind.toNat
        if window.seen &&& bit ≠ 0 then (window,.error (replayError "duplicate packet ID"))
        else ({window with seen := window.seen ||| bit},.ok ())

/-- The window stands for the accepted numbers `kept`. -/
def Remembers (window : ReplayWindow) (kept : List Nat) : Prop :=
  match window.latest with
  | none => kept = []
  | some latest => latest.toNat ∈ kept ∧ (∀ id ∈ kept, id ≤ latest.toNat) ∧
    ∀ i < 64, window.seen.getLsbD i = true ↔ i ≤ latest.toNat ∧ latest.toNat - i ∈ kept

theorem remembers_default : Remembers {} [] := rfl

theorem behind_toNat {latest packetId : UInt64} (older : ¬latest < packetId) :
    (latest - packetId).toNat = latest.toNat - packetId.toNat :=
  UInt64.toNat_sub_of_le _ _ (UInt64.not_lt.mp older)

theorem windowBits_le_iff (distance : UInt64) : windowBits ≤ distance ↔ 64 ≤ distance.toNat :=
  UInt64.le_iff_toNat_le

theorem bit_set_iff (seen : BitVec 64) {i : Nat} (inside : i < 64) :
    seen &&& 1#64 <<< i ≠ 0 ↔ seen.getLsbD i = true := by
  rw [← BitVec.twoPow_eq,BitVec.and_twoPow]
  split
  · rename_i set
    simp only [set,iff_true]
    intro zero
    have := congrArg (BitVec.getLsbD · i) zero
    simp [inside] at this
  · rename_i clear
    simp [clear]

/-- A number above the largest one moves the window up to it. -/
theorem remembers_above {window : ReplayWindow} {latest packetId : UInt64} {kept : List Nat}
    (largest : window.latest = some latest) (remembers : window.Remembers kept) (above : latest < packetId) :
    Remembers ⟨some packetId,if windowBits ≤ packetId - latest then 1 else window.seen <<< (packetId - latest).toNat ||| 1⟩
      (packetId.toNat::kept) := by
  simp only [Remembers,largest] at remembers
  obtain ⟨member,below,bits⟩ := remembers
  have larger : latest.toNat < packetId.toNat := UInt64.lt_iff_toNat_lt.mp above
  have distance : (packetId - latest).toNat = packetId.toNat - latest.toNat :=
    UInt64.toNat_sub_of_le _ _ (UInt64.le_of_lt above)
  refine ⟨List.mem_cons_self,?_,?_⟩
  · intro id member
    obtain rfl | member := List.mem_cons.mp member
    · exact Nat.le_refl _
    · have := below id member
      omega
  · intro i inside
    by_cases zero : i = 0
    · subst zero
      split <;> simp
    · have moved : i ≤ packetId.toNat ∧ packetId.toNat - i ∈ packetId.toNat::kept ↔
          packetId.toNat - latest.toNat ≤ i ∧ i ≤ packetId.toNat ∧ packetId.toNat - i ∈ kept := by
        constructor
        · rintro ⟨bound,member⟩
          obtain same | member := List.mem_cons.mp member
          · omega
          · have := below _ member
            exact ⟨by omega,bound,member⟩
        · rintro ⟨-,bound,member⟩
          exact ⟨bound,List.mem_cons_of_mem _ member⟩
      rw [moved]
      split
      · rename_i far
        rw [windowBits_le_iff,distance] at far
        have unset : (1 : BitVec 64).getLsbD i = false := by simp [zero]
        rw [unset]
        constructor
        · simp
        · rintro ⟨near,-⟩
          omega
      · have one : (1 : BitVec 64).getLsbD i = false := by simp [zero]
        rw [BitVec.getLsbD_or,BitVec.getLsbD_shiftLeft,one,distance,Bool.or_false]
        by_cases near : packetId.toNat - latest.toNat ≤ i
        · have old := bits (i - (packetId.toNat - latest.toNat)) (by omega)
          have same : latest.toNat - (i - (packetId.toNat - latest.toNat)) = packetId.toNat - i := by omega
          rw [same] at old
          simp only [inside,decide_true,Nat.not_lt.mpr near,decide_false,Bool.not_false,Bool.and_self,
            Bool.true_and,old,near,true_and]
          constructor
          · rintro ⟨bound,member⟩
            exact ⟨by omega,member⟩
          · rintro ⟨bound,member⟩
            exact ⟨by omega,member⟩
        · simp [near,Nat.lt_of_not_le near]

/-- A number inside the window that was not seen sets its bit. -/
theorem remembers_inside {window : ReplayWindow} {latest packetId : UInt64} {kept : List Nat}
    (largest : window.latest = some latest) (remembers : window.Remembers kept) (older : ¬latest < packetId)
    (near : (latest - packetId).toNat < 64) :
    Remembers {window with seen := window.seen ||| 1#64 <<< (latest - packetId).toNat} (packetId.toNat::kept) := by
  simp only [Remembers,largest] at remembers ⊢
  obtain ⟨member,below,bits⟩ := remembers
  have smaller : packetId.toNat ≤ latest.toNat := UInt64.le_iff_toNat_le.mp (UInt64.not_lt.mp older)
  rw [behind_toNat older] at near ⊢
  refine ⟨List.mem_cons_of_mem _ member,?_,?_⟩
  · intro id member
    obtain rfl | member := List.mem_cons.mp member
    · exact smaller
    · exact below id member
  · intro i inside
    rw [← BitVec.twoPow_eq,BitVec.getLsbD_or,BitVec.getLsbD_twoPow,Bool.or_eq_true,bits i inside,List.mem_cons]
    simp only [near,decide_true,Bool.true_and,decide_eq_true_eq]
    constructor
    · rintro (⟨bound,member⟩ | same)
      · exact ⟨bound,.inr member⟩
      · exact ⟨by omega,.inl (by omega)⟩
    · rintro ⟨bound,same | member⟩
      · exact .inr (by omega)
      · exact .inl ⟨bound,member⟩

/-- The window admits a number exactly when the numbers it stands for do, and remembers
it; a number it refuses leaves it as it was. -/
theorem checkAndUpdate_spec {window : ReplayWindow} {kept : List Nat} (remembers : window.Remembers kept)
    (packetId : UInt64) :
    (Admits 64 kept packetId.toNat → (window.checkAndUpdate packetId).2 = .ok () ∧
      (window.checkAndUpdate packetId).1.Remembers (packetId.toNat::kept)) ∧
    (¬Admits 64 kept packetId.toNat → (∃ error, (window.checkAndUpdate packetId).2 = .error error) ∧
      (window.checkAndUpdate packetId).1 = window) := by
  unfold checkAndUpdate
  split
  · rename_i empty
    simp only [Remembers,empty] at remembers
    subst remembers
    refine ⟨fun _ => ⟨rfl,?_⟩,fun refused => absurd ⟨by simp,by simp⟩ refused⟩
    simp only [Remembers,List.mem_singleton,forall_eq,Nat.le_refl,true_and]
    intro i inside
    have one : (1 : BitVec 64).getLsbD i = true ↔ i = 0 := by simp
    rw [one]
    omega
  · rename_i latest largest
    have facts := remembers
    simp only [Remembers,largest] at facts
    obtain ⟨member,below,bits⟩ := facts
    split
    · rename_i above
      have larger : latest.toNat < packetId.toNat := UInt64.lt_iff_toNat_lt.mp above
      have admitted : Admits 64 kept packetId.toNat := by
        refine ⟨fun member => ?_,fun older member => ?_⟩
        · have := below _ member
          omega
        · have := below _ member
          omega
      exact ⟨fun _ => ⟨rfl,remembers_above largest remembers above⟩,fun refused => absurd admitted refused⟩
    · rename_i older
      have smaller : packetId.toNat ≤ latest.toNat := UInt64.le_iff_toNat_le.mp (UInt64.not_lt.mp older)
      simp only
      split
      · rename_i far
        rw [windowBits_le_iff,behind_toNat older] at far
        refine ⟨fun admitted => ?_,fun _ => ⟨⟨_,rfl⟩,rfl⟩⟩
        have := admitted.2 _ member
        omega
      · rename_i near
        rw [windowBits_le_iff,Nat.not_le] at near
        have inside := near
        rw [behind_toNat older] at inside
        have set := bits _ inside
        have back : latest.toNat - (latest.toNat - packetId.toNat) = packetId.toNat := by omega
        rw [back] at set
        split
        · rename_i duplicate
          rw [bit_set_iff _ near,behind_toNat older,set] at duplicate
          exact ⟨fun admitted => absurd duplicate.2 admitted.1,fun _ => ⟨⟨_,rfl⟩,rfl⟩⟩
        · rename_i fresh
          rw [bit_set_iff _ near,behind_toNat older,set] at fresh
          have admitted : Admits 64 kept packetId.toNat := by
            refine ⟨fun member => fresh ⟨by omega,member⟩,fun id member => ?_⟩
            have := below id member
            omega
          exact ⟨fun _ => ⟨rfl,remembers_inside largest remembers older near⟩,fun refused => absurd admitted refused⟩

end ReplayWindow
end Dynet.Shadowsocks
