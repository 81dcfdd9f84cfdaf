import TaskMonitor.TaskConfig
import Mathlib.Data.Stream.Init

/-! The buffer of `task_config_init`: its size, and what the reads store in it. -/

namespace TaskMonitor

open CText Cjson

structure Store where
  offset : Nat
  count : Nat
  deriving DecidableEq

def Store.Inside (size : Nat) (store : Store) : Prop :=
  ∀ position, store.offset ≤ position → position < store.offset + store.count → position < size

/-- `readLoop` with the stores of its reads. A count that is negative as an `int` has been stored
all the same. -/
def loadLoop (filesize : Nat) : Nat → Bool → List Fread → List Store × Option (Option Nat)
  | readLen, eof, [] =>
      ([], if readLen = filesize ∨ eof = true then some (some readLen) else none)
  | readLen, eof, read :: reads =>
      if readLen = filesize ∨ eof = true then ([], some (some readLen))
      else
        let ret := min read.count (filesize - readLen)
        if 0 < ret ∧ ret < 2 ^ 31 then
          let (stores, result) := loadLoop filesize (readLen + ret) read.eof reads
          (⟨readLen, ret⟩ :: stores, result)
        else ([⟨readLen, ret⟩], some none)

theorem loadLoop_result (filesize readLen : Nat) (eof : Bool) (reads : List Fread) :
    (loadLoop filesize readLen eof reads).2 = readLoop filesize readLen eof reads := by
  induction reads generalizing readLen eof with
  | nil => rfl
  | cons read reads ih =>
      rw [loadLoop, readLoop]
      dsimp only
      split
      · rfl
      split
      · exact ih _ _
      · rfl

theorem loadLoop_below {filesize readLen : Nat} (below : readLen ≤ filesize) (eof : Bool)
    (reads : List Fread) :
    ∀ store ∈ (loadLoop filesize readLen eof reads).1, store.offset + store.count ≤ filesize := by
  induction reads generalizing readLen eof with
  | nil => simp [loadLoop]
  | cons read reads ih =>
      intro store member
      have request : readLen + min read.count (filesize - readLen) ≤ filesize := by omega
      rw [loadLoop] at member
      dsimp only at member
      split at member
      · cases member
      split at member
      · cases List.mem_cons.mp member with
        | inl first =>
            rw [first]
            exact request
        | inr later => exact ih request read.eof store later
      · rw [List.mem_singleton.mp member]
        exact request

theorem readLoop_below {filesize readLen : Nat} (below : readLen ≤ filesize) {eof : Bool}
    {reads : List Fread} {loaded : Nat}
    (ended : readLoop filesize readLen eof reads = some (some loaded)) : loaded ≤ filesize := by
  induction reads generalizing readLen eof with
  | nil =>
      rw [readLoop] at ended
      split at ended
      · cases ended
        exact below
      · cases ended
  | cons read reads ih =>
      rw [readLoop] at ended
      dsimp only at ended
      split at ended
      · cases ended
        exact below
      split at ended
      · exact ih (by omega) ended
      · cases ended

/-- A read that succeeds brings the loop nearer to the file's size, so some read is its last. -/
theorem readLoop_ends {filesize readLen : Nat} (below : readLen ≤ filesize) (eof : Bool)
    (reads : Stream' Fread) : ∃ n, readLoop filesize readLen eof (reads.take n) ≠ none := by
  induction left : filesize - readLen using Nat.strong_induction_on
    generalizing readLen eof reads with
  | _ m ih =>
      by_cases ended : readLen = filesize ∨ eof = true
      · refine ⟨0, ?_⟩
        rw [Stream'.take_zero, readLoop, if_pos ended]
        simp
      by_cases stored : 0 < min reads.head.count (filesize - readLen) ∧
          min reads.head.count (filesize - readLen) < 2 ^ 31
      · have nearer : filesize - (readLen + min reads.head.count (filesize - readLen)) < m := by
          omega
        rcases ih _ nearer (by omega) reads.head.eof reads.tail rfl with ⟨n, later⟩
        refine ⟨n + 1, ?_⟩
        rw [Stream'.take_succ, readLoop, if_neg ended]
        dsimp only
        rw [if_pos stored]
        exact later
      · refine ⟨1, ?_⟩
        rw [Stream'.take_succ, readLoop, if_neg ended]
        dsimp only
        rw [if_neg stored]
        simp

/-- `malloc(filesize + 1)`: the sum is one of `uint32_t`. -/
def bufferSize (filesize : UInt32) : Nat := (filesize + 1).toNat

/-- The file as the loader finds it: `filesize` takes the `long` of `ftell`. -/
def ConfigFile.told (ftell : Int) (contents : Text) (reads : List Fread) : ConfigFile :=
  ⟨true, contents, UInt32.ofInt ftell, true, reads⟩

structure StaysInBuffer (ftell : Int) (contents : Text) (reads : Stream' Fread) : Prop where
  ends : ∃ n, readLoop (UInt32.ofInt ftell).toNat 0 false (reads.take n) ≠ none
  inside : ∀ n, ∀ store ∈ (loadLoop (UInt32.ofInt ftell).toNat 0 false (reads.take n)).1,
    store.Inside (bufferSize (UInt32.ofInt ftell))
  terminated : ∀ n readLen,
    readLoop (UInt32.ofInt ftell).toNat 0 false (reads.take n) = some (some readLen) →
      ∃ i, i < bufferSize (UInt32.ofInt ftell) ∧
        ((ConfigFile.told ftell contents (reads.take n)).buffer readLen)[i]? = some 0

theorem bufferSize_eq (filesize : UInt32) :
    bufferSize filesize = if filesize.toNat + 1 = 2 ^ 32 then 0 else filesize.toNat + 1 := by
  have word := filesize.toNat_lt
  rw [bufferSize, UInt32.toNat_add, UInt32.toNat_one]
  split <;> omega

theorem filesize_toNat (ftell : Int) :
    (UInt32.ofInt ftell).toNat + 1 = 2 ^ 32 ↔ (ftell + 1) % 2 ^ 32 = 0 := by
  simp only [UInt32.ofInt, UInt32.toNat_ofNat']
  omega

theorem stays_of_room {ftell : Int} (room : (ftell + 1) % 2 ^ 32 ≠ 0) (contents : Text)
    (reads : Stream' Fread) : StaysInBuffer ftell contents reads := by
  have size : bufferSize (UInt32.ofInt ftell) = (UInt32.ofInt ftell).toNat + 1 := by
    rw [bufferSize_eq, if_neg fun wrapped => room ((filesize_toNat ftell).mp wrapped)]
  constructor
  · exact readLoop_ends (Nat.zero_le _) false reads
  · intro n store member position _ before
    have below := loadLoop_below (Nat.zero_le _) false (reads.take n) store member
    rw [size]
    omega
  · intro n readLen ended
    have below := readLoop_below (Nat.zero_le _) ended
    have front : (contents.take readLen).length ≤ readLen := List.length_take_le _ _
    refine ⟨(contents.take readLen).length, by omega, ?_⟩
    have zeros : 0 < bufferSize (UInt32.ofInt ftell) - readLen := by omega
    rw [ConfigFile.buffer, ConfigFile.told, List.getElem?_append_right (Nat.le_refl _),
      Nat.sub_self, List.getElem?_replicate]
    exact if_pos zeros

theorem loop_begins {filesize : Nat} (nonempty : filesize ≠ 0) :
    ¬ (0 = filesize ∨ false = true) := by
  intro ended
  cases ended with
  | inl zero => exact nonempty zero.symm
  | inr eof => cases eof

theorem first_store {filesize : Nat} (nonempty : filesize ≠ 0) (reads : Stream' Fread) :
    ⟨0, min reads.head.count filesize⟩ ∈ (loadLoop filesize 0 false (reads.take 1)).1 := by
  rw [Stream'.take_succ, loadLoop, if_neg (loop_begins nonempty)]
  dsimp only
  split
  · exact List.mem_cons_self
  · exact List.mem_cons_self

theorem first_empty {filesize : Nat} (nonempty : filesize ≠ 0) {reads : Stream' Fread}
    (empty : reads.head.count = 0) (n : Nat) :
    loadLoop filesize 0 false (reads.take (n + 1)) = ([⟨0, 0⟩], some none) := by
  rw [Stream'.take_succ, loadLoop, if_neg (loop_begins nonempty), empty, Nat.zero_min]
  rfl

theorem stays_of_empty {ftell : Int} (nonempty : (UInt32.ofInt ftell).toNat ≠ 0)
    (contents : Text) {reads : Stream' Fread} (empty : reads.head.count = 0) :
    StaysInBuffer ftell contents reads := by
  constructor
  · exact readLoop_ends (Nat.zero_le _) false reads
  · intro n store member position _ before
    cases n with
    | zero =>
        rw [Stream'.take_zero, loadLoop] at member
        cases member
    | succ n =>
        rw [first_empty nonempty empty] at member
        obtain rfl := List.mem_singleton.mp member
        exact absurd before (Nat.not_lt_zero position)
  · intro n readLen ended
    rw [← loadLoop_result] at ended
    cases n with
    | zero =>
        rw [Stream'.take_zero, loadLoop, if_neg (loop_begins nonempty)] at ended
        cases ended
    | succ n =>
        rw [first_empty nonempty empty] at ended
        cases ended

/-- The size wraps to nothing for one value of `ftell` in 2^32, -1 among them. There the loader
stays in its buffer only if the first read stores nothing. -/
theorem stays_in_buffer_iff (ftell : Int) (contents : Text) (reads : Stream' Fread) :
    StaysInBuffer ftell contents reads ↔
      (ftell + 1) % 2 ^ 32 ≠ 0 ∨ reads.head.count = 0 := by
  by_cases wrapped : (ftell + 1) % 2 ^ 32 = 0
  · have largest := (filesize_toNat ftell).mpr wrapped
    have nonempty : (UInt32.ofInt ftell).toNat ≠ 0 := by omega
    constructor
    · intro stays
      right
      by_contra some_bytes
      have stored : 0 < 0 + min reads.head.count (UInt32.ofInt ftell).toNat := by omega
      have outside := stays.inside 1 _ (first_store nonempty reads) 0 (Nat.le_refl 0) stored
      rw [bufferSize_eq, if_pos largest] at outside
      cases outside
    · intro condition
      have empty := condition.resolve_left fun room => room wrapped
      exact stays_of_empty nonempty contents empty
  · exact iff_of_true (stays_of_room wrapped contents reads) (Or.inl wrapped)

/-- A file that cannot be sought in, such as a pipe: `ftell` gives -1, and one byte is read. -/
theorem unseekable_overflows : ¬ StaysInBuffer (-1) [] (.const ⟨1, false⟩) := by
  intro stays
  have outside := stays.inside 1 ⟨0, 1⟩ (by decide) 0 (by decide) (by decide)
  have empty : bufferSize (UInt32.ofInt (-1)) = 0 := by decide
  rw [empty] at outside
  cases outside

end TaskMonitor
