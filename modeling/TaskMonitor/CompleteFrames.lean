import TaskMonitor.FrameLengths

/-! When `getAvailablePackage` of `task_msg.cpp` recognises a frame, and what it does when it does
not. -/

namespace TaskMonitor

def Complete (b : List UInt8) : Prop := 8 ≤ b.length ∧ 8 + headerLen b ≤ b.length

instance (b : List UInt8) : Decidable (Complete b) := inferInstanceAs (Decidable (_ ∧ _))

inductive Recognised (b : List UInt8) : Available → Prop where
  | complete (whole : Complete b) :
      Recognised b (.yes
        { reqId := BigEndian.decode32 (b.take 4)
          len := BigEndian.decode32 ((b.drop 4).take 4)
          data := b.take (8 + headerLen b) } ⟨b.drop (8 + headerLen b)⟩)
  | incomplete (part : ¬ Complete b) : Recognised b (.no 0 ⟨b⟩)

/-- With memory at hand and a length word that leaves room for the header, exactly a buffer that
is one frame without payload is not recognised: the first comparison is not strict. -/
theorem recognised_iff (b : List UInt8) (small : 8 ≤ b.length → headerLen b ≤ 2 ^ 32 - 9) :
    Recognised b (getAvailablePackage ⟨b⟩ true) ↔ ¬ (b.length = 8 ∧ headerLen b = 0) := by
  rw [getAvailablePackage_if]
  by_cases long : 8 < b.length
  · have total : wrappedLen b = 8 + headerLen b := by
      rw [wrappedLen]
      omega
    have ordinary : ¬ (b.length = 8 ∧ headerLen b = 0) := by omega
    simp only [ordinary, not_false_eq_true, iff_true, and_true]
    by_cases enough : 8 + headerLen b ≤ b.length
    · have words : (b.take 8).drop 4 = (b.drop 4).take 4 := List.drop_take
      rw [if_pos ⟨long, total ▸ enough⟩, total, words]
      exact .complete ⟨by omega, enough⟩
    · rw [if_neg (fun found => enough (total ▸ found.2))]
      exact .incomplete (fun whole => enough whole.2)
  · rw [if_neg (fun found => long found.1)]
    constructor
    · intro recognised exceptional
      cases recognised with
      | incomplete part => exact part ⟨by omega, by omega⟩
    · intro ordinary
      refine .incomplete (fun whole => ordinary ?_)
      rcases whole with ⟨header, payload⟩
      omega

def bareHeader : List UInt8 := [0, 0, 0, 1, 0, 0, 0, 0]

theorem bare_header_is_not_recognised :
    Complete bareHeader ∧ headerLen bareHeader ≤ 2 ^ 32 - 9 ∧
      ¬ Recognised bareHeader (getAvailablePackage ⟨bareHeader⟩ true) := by
  have whole : Complete bareHeader := by decide
  refine ⟨whole, by decide, ?_⟩
  have waits : getAvailablePackage ⟨bareHeader⟩ true = .no 0 ⟨bareHeader⟩ := rfl
  rw [waits]
  intro recognised
  cases recognised with
  | incomplete part => exact part whole

/-- One byte behind it is enough. -/
theorem recognised_once_more_follows :
    Recognised (bareHeader ++ [0]) (getAvailablePackage ⟨bareHeader ++ [0]⟩ true) :=
  (recognised_iff (bareHeader ++ [0]) (fun _ => by decide)).mpr (by decide)

end TaskMonitor
