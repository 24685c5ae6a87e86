import Enquiry.Proofs.Service.Answer
import Enquiry.Proofs.Store.Listing
import Mathlib.Algebra.Ring.Nat

/-!
# Totals of listings

The sizes of a listing are added one after another, and a sum that 64 bits do not hold breaks the
listing off.  No order of them could help: the sums on the way are never larger than the last, so
there is a total exactly when 64 bits hold the sum of all sizes (`Service.totalSize?_eq`).

So **a listing that is not refused is answered exactly when the sum of its sizes is less than two to
the 64**, and breaks off in all other cases (`Service.list_total`).
-/

namespace Enquiry

open Number ObjectStore

/-- The sum of the sizes of some files. -/
def sumOfSizes (files : List ObjectInfo) : Nat := (files.map (·.size.toNat)).sum

theorem sumOfSizes_cons (file : ObjectInfo) (files : List ObjectInfo) :
    sumOfSizes (file :: files) = file.size.toNat + sumOfSizes files := List.sum_cons

theorem addWords?_of_lt {a b : UInt64} (fits : a.toNat + b.toNat < 2 ^ 64) :
    addWords? a b = some (.ofNat (a.toNat + b.toNat)) := by
  have held : a.toNat + b.toNat < wordBound := fits
  rw [addWords?, if_pos held, UInt64.ofNat_add, UInt64.ofNat_toNat, UInt64.ofNat_toNat]

theorem addWords?_of_le {a b : UInt64} (large : 2 ^ 64 ≤ a.toNat + b.toNat) :
    addWords? a b = none := by
  have unheld : ¬ a.toNat + b.toNat < wordBound := Nat.not_lt.mpr large
  rw [addWords?, if_neg unheld]

namespace Service

variable {σ : Type} {s : Service σ} {r : ListRequest} {files : List ObjectInfo}

/-! ### Sums of sizes -/

theorem foldlM_addWords? (files : List ObjectInfo) (total : UInt64) :
    files.foldlM (fun total file => addWords? total file.size) total =
      if total.toNat + sumOfSizes files < 2 ^ 64 then some (.ofNat (total.toNat + sumOfSizes files))
      else none := by
  induction files generalizing total with
  | nil =>
      have held : total.toNat + sumOfSizes [] < 2 ^ 64 := total.toNat_lt
      rw [if_pos held, List.foldlM_nil]
      exact congrArg some UInt64.ofNat_toNat.symm
  | cons file files ih =>
      rw [List.foldlM_cons, sumOfSizes_cons, ← Nat.add_assoc]
      rcases Nat.lt_or_ge (total.toNat + file.size.toNat) (2 ^ 64) with fits | large
      · rw [addWords?_of_lt fits, Option.bind_eq_bind, Option.bind_some, ih,
          UInt64.toNat_ofNat_of_lt' fits]
      · -- one sum that is too large makes all that follow too large
        rw [addWords?_of_le large, if_neg (by omega)]
        rfl

/-- **There is a total exactly when 64 bits hold it**, and then it is the sum. -/
theorem totalSize?_eq (files : List ObjectInfo) :
    totalSize? files =
      if sumOfSizes files < 2 ^ 64 then some (.ofNat (sumOfSizes files)) else none := by
  rw [totalSize?, foldlM_addWords?, UInt64.toNat_zero, Nat.zero_add]

/-! ### Listings -/

/-- What is listed is the answer, with its number and its size. -/
theorem list_of_lt (listed : s.store.list r.bucket (r.keyStart.getD "") = .ok files)
    (fits : sumOfSizes files < 2 ^ 64) :
    ∃ total, total.toNat = sumOfSizes files ∧
      s.list r = .ok (.success ⟨r.bucket, r.keyStart, files, files.length, total,
        sizeText total.toNat⟩) := by
  refine ⟨.ofNat (sumOfSizes files), UInt64.toNat_ofNat_of_lt' fits, ?_⟩
  rw [list, runList, listed]
  simp only [listPayload, totalSize?_eq, if_pos fits]
  rfl

/-- Sizes that are too large together give no answer. -/
theorem list_of_le (listed : s.store.list r.bucket (r.keyStart.getD "") = .ok files)
    (large : 2 ^ 64 ≤ sumOfSizes files) : s.list r = .error .overflow := by
  rw [list, runList, listed]
  simp only [listPayload, totalSize?_eq, if_neg (Nat.not_lt.mpr large)]
  rfl

/-- **When a listing has a total.**  The files of a bucket that is there are its objects whose keys
begin as is asked, with their sizes.  The listing is answered with these files, their number and the
sum of their sizes exactly when the sum is less than two to the 64, and otherwise it breaks off. -/
theorem list_total {objects : Bucket} (allowed : r.bucket ∉ s.store.denied)
    (held : s.store.buckets.get? r.bucket = some objects) :
    ∃ files,
      s.store.list r.bucket (r.keyStart.getD "") = .ok files ∧
      files.map (·.key) = objects.keys.filter
        (fun key => (r.keyStart.getD "").toList.isPrefixOf key.toList) ∧
      (∀ file ∈ files, (objects.get? file.key).map (·.size) = some file.size) ∧
      ((∃ total, total.toNat = sumOfSizes files ∧
          s.list r = .ok (.success ⟨r.bucket, r.keyStart, files, files.length, total,
            sizeText total.toNat⟩)) ↔ sumOfSizes files < 2 ^ 64) ∧
      (s.list r = .error .overflow ↔ 2 ^ 64 ≤ sumOfSizes files) := by
  have bucket : s.store.bucket r.bucket = .ok objects := by
    rw [ObjectStore.bucket, if_neg allowed, held]
  obtain ⟨files, listed, keys⟩ := exists_list_eq bucket (r.keyStart.getD "")
  refine ⟨files, listed, keys, fun file mem => ?_, ⟨?_, list_of_lt listed⟩,
    ⟨fun broken => ?_, list_of_le listed⟩⟩
  · obtain ⟨objects', object, bucket', found, shown⟩ := exists_of_mem_list listed mem
    obtain rfl : objects = objects' := Except.ok.inj (bucket.symm.trans bucket')
    rw [found, shown]
    rfl
  · rintro ⟨total, sum, -⟩
    rw [← sum]
    exact total.toNat_lt
  · by_contra small
    obtain ⟨total, -, answered⟩ := list_of_lt listed (Nat.not_le.mp small)
    cases broken.symm.trans answered

/-- An object with all but its size as usual. -/
def objectOfSize (size : UInt64) : StoredObject := ⟨size, "text/csv", "now", "STANDARD"⟩

/-- A service over a bucket with an object of the largest size there is, and one of a byte. -/
def fullService : Service Nat :=
  { briefService with
    store := (empty.put "b" "x" (objectOfSize 18446744073709551615)).put "b" "y" (objectOfSize 1) }

/-- What a listing shows of the two objects. -/
def fullFiles : List ObjectInfo :=
  [info "b" "x" (objectOfSize 18446744073709551615), info "b" "y" (objectOfSize 1)]

theorem list_fullService : fullService.store.list "b" "" = .ok fullFiles := rfl

theorem sumOfSizes_fullFiles : sumOfSizes fullFiles = 2 ^ 64 := rfl

/-- The two objects together have no total; the first alone has. -/
theorem list_total_full : "b" ∉ fullService.store.denied ∧
    (fullService.store.buckets.get? "b").isSome = true ∧
    fullService.list ⟨"b", none⟩ = .error .overflow ∧
    ∃ payload, fullService.list ⟨"b", some "x"⟩ = .ok (.success payload) ∧
      payload.totalFiles = 1 ∧ payload.totalSize = 18446744073709551615 := by
  have allowed : "b" ∉ fullService.store.denied := List.not_mem_nil
  obtain ⟨files, listed, -, -, -, breaks⟩ :=
    list_total (s := fullService) (r := ⟨"b", none⟩) allowed rfl
  obtain rfl : fullFiles = files := Except.ok.inj (list_fullService.symm.trans listed)
  obtain ⟨first, listedFirst, -, -, answers, -⟩ :=
    list_total (s := fullService) (r := ⟨"b", some "x"⟩) allowed rfl
  have single : fullService.store.list "b" "x" = .ok [fullFiles.head (List.cons_ne_nil _ _)] := rfl
  obtain rfl := Except.ok.inj (single.symm.trans listedFirst)
  obtain ⟨total, sum, answered⟩ := answers.mpr (by decide)
  exact ⟨allowed, rfl, breaks.mpr (Nat.le_of_eq sumOfSizes_fullFiles.symm), _, answered, rfl,
    UInt64.toNat_inj.mp sum⟩

/-- Not every listing has the sum of its sizes for its total. -/
theorem not_forall_list_total :
    ¬ ∀ (s : Service Nat) (r : ListRequest) (objects : Bucket), r.bucket ∉ s.store.denied →
      s.store.buckets.get? r.bucket = some objects →
      ∃ payload, s.list r = .ok (.success payload) ∧
        payload.totalFiles = payload.files.length ∧
        payload.totalSize.toNat = sumOfSizes payload.files := by
  intro same
  obtain ⟨payload, answered, -, -⟩ := same fullService ⟨"b", none⟩ _ List.not_mem_nil rfl
  have broken : fullService.list ⟨"b", none⟩ = .error .overflow :=
    list_of_le list_fullService (Nat.le_of_eq sumOfSizes_fullFiles.symm)
  cases broken.symm.trans answered

end Service

end Enquiry
