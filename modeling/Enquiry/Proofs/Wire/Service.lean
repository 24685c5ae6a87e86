import Enquiry.Proofs.Wire.Decoder
import Enquiry.Wire.Service

/-!
# What the service says, there and back

The JSON form of a type is `Faithful` for the values that fit in it when it is legible, its shape is
decoded to the value that was written, and only values that fit are decoded.  Nothing but the size
of whole numbers decides what fits.  A response is faithful when its payload and its input are and
have none of the names that a response uses itself (`Response.faithful`).

Of a faithful type each value is read as it was written, and **a text that is rewritten once is
rewritten to itself** (`Faithful.readsBack`).  `service_types_readBack` says so of what the service
is asked and what it answers.
-/

namespace Enquiry.Wire

open Json Number

variable {α : Type} [Encodes α] [Decodes α] {Fits : α → Prop} {depth : Nat}

/-- The JSON form of a type is faithful for the values that fit, and nests `depth` brackets. -/
structure Faithful (α : Type) [Encodes α] [Decodes α] (Fits : α → Prop) (depth : Nat) : Prop where
  legible : ∀ {a}, Fits a → ∀ levels, (Encodes.json a).Legible (levels + depth)
  decoder_shape : ∀ {a}, Fits a → ∀ levels,
    Decodes.decoder (levels + depth) (Encodes.json a).shape = some a
  fits : ∀ {levels w a}, Decodes.decoder levels w = some a → Fits a

/-- The text of the value that a text stands for. -/
def rewrite? (α : Type) [Encodes α] [Decodes α] (text : String) : Option String :=
  (read? α text).map write

/-- The values that fit are read as they were written, only such values are read, and a text that
has been rewritten stays as it is. -/
structure ReadsBack (α : Type) [Encodes α] [Decodes α] (Fits : α → Prop) : Prop where
  read?_write : ∀ a, Fits a → read? α (write a) = some a
  fits : ∀ text a, read? α text = some a → Fits a
  rewrite?_rewritten : ∀ text rewritten, rewrite? α text = some rewritten →
    rewrite? α rewritten = some rewritten

theorem Faithful.mono (h : Faithful α Fits depth) {more : Nat} (le : depth ≤ more) :
    Faithful α Fits more where
  legible fit levels := by
    have deep := h.legible fit (levels + (more - depth))
    rwa [show levels + (more - depth) + depth = levels + more by omega] at deep
  decoder_shape fit levels := by
    have deep := h.decoder_shape fit (levels + (more - depth))
    rwa [show levels + (more - depth) + depth = levels + more by omega] at deep
  fits := h.fits

/-- **A faithful type reads back what it writes.** -/
theorem Faithful.readsBack (h : Faithful α Fits depth) (le : depth ≤ maxLevels) :
    ReadsBack α Fits := by
  have back : ∀ a, Fits a → read? α (write a) = some a := fun a fit => by
    have decodes := h.decoder_shape fit (maxLevels - depth)
    rw [show maxLevels - depth + depth = maxLevels by omega] at decodes
    exact Wire.read?_write (h.legible fit 0) decodes
  have only : ∀ text a, read? α text = some a → Fits a := fun text a read => by
    obtain ⟨w, -, decoded⟩ := Option.bind_eq_some_iff.mp read
    exact h.fits decoded
  refine ⟨back, only, fun text rewritten e => ?_⟩
  obtain ⟨a, read, rfl⟩ := Option.map_eq_some_iff.mp e
  rw [rewrite?, back a (only text a read), Option.map_some]

end Enquiry.Wire

namespace Enquiry

open Json Number Wire

/-! ### Requests -/

theorem QueryRequest.faithful : Faithful QueryRequest (fun r => r.limit < wordBound) 1 where
  legible fit levels := by
    refine .object (by simp) ?_
    simp only [List.forall_mem_cons]
    exact ⟨.string _ _, .string _ _, nat_legible _ fit, by simp⟩
  decoder_shape fit levels := by
    refine (struct_shape (by simp)).trans ?_
    simp [Fields.required_ofMembers, Fields.defaulted_ofMembers, lookup_cons_eq_ite,
      natural_shape fit]
  fits h := by
    obtain ⟨f, built⟩ := exists_fields_of_struct h
    simp only [Option.bind_eq_bind, Option.bind_eq_some_iff] at built
    obtain ⟨_, -, _, -, n, read, built⟩ := built
    obtain rfl := Option.some.inj built
    exact Fields.lt_of_defaulted (by decide) read

theorem ExploreRequest.faithful : Faithful ExploreRequest (fun r => r.sampleSize < wordBound) 1 where
  legible fit levels := by
    refine .object (by simp) ?_
    simp only [List.forall_mem_cons]
    exact ⟨.string _ _, nat_legible _ fit, by simp⟩
  decoder_shape fit levels := by
    refine (struct_shape (by simp)).trans ?_
    simp [Fields.required_ofMembers, Fields.defaulted_ofMembers, lookup_cons_eq_ite,
      natural_shape fit]
  fits h := by
    obtain ⟨f, built⟩ := exists_fields_of_struct h
    simp only [Option.bind_eq_bind, Option.bind_eq_some_iff] at built
    obtain ⟨_, -, n, read, built⟩ := built
    obtain rfl := Option.some.inj built
    exact Fields.lt_of_defaulted (by decide) read

theorem ListRequest.faithful : Faithful ListRequest (fun _ => True) 1 where
  legible _ levels := by
    refine .object (by simp) ?_
    simp only [List.forall_mem_cons]
    exact ⟨.string _ _, string?_legible _ _, by simp⟩
  decoder_shape _ levels := by
    refine (struct_shape (by simp)).trans ?_
    simp [Fields.required_ofMembers, Fields.defaulted_ofMembers, lookup_cons_eq_ite]
  fits _ := trivial

/-! ### Answers of a store and of the engine -/

theorem ObjectInfo.faithful : Faithful ObjectInfo (fun _ => True) 1 where
  legible _ levels := by
    refine .object (by simp) ?_
    simp only [List.forall_mem_cons]
    exact ⟨.string _ _, nat_legible _ (UInt64.toNat_lt _), .string _ _, .string _ _, .string _ _,
      .string _ _, by simp⟩
  decoder_shape _ levels := by
    refine (struct_shape (by simp)).trans ?_
    simp [Fields.required_ofMembers, lookup_cons_eq_ite, word64Json]
  fits _ := trivial

theorem LocatorStatus.legible (status : LocatorStatus) (levels : Nat) :
    (Encodes.json status).Legible (levels + 2) := by
  cases status with
  | object bucket key size contentType =>
      refine .object (by simp) ?_
      simp only [List.forall_mem_cons]
      exact ⟨.string _ _, .string _ _, .string _ _, nat_legible _ (UInt64.toNat_lt _),
        .string _ _, by simp⟩
  | collection bucket keyStart samples =>
      refine .object (by simp) ?_
      simp only [List.forall_mem_cons]
      exact ⟨.string _ _, .string _ _, .string _ _, strings_legible levels _, by simp⟩
  | invalid error =>
      refine .object (by simp) ?_
      simp only [List.forall_mem_cons]
      exact ⟨.string _ _, .string _ _, by simp⟩

theorem LocatorStatus.faithful : Faithful LocatorStatus (fun _ => True) 2 where
  legible _ levels := LocatorStatus.legible _ levels
  decoder_shape {status} _ levels := by
    have legible := LocatorStatus.legible status levels
    cases status with
    | object bucket key size contentType =>
        refine (tagged_shape legible).trans ?_
        simp only [branch, String.reduceEq, if_true, if_false]
        refine (struct_shape (by simp)).trans ?_
        simp [Fields.required_ofMembers, lookup_cons_eq_ite, word64Json]
    | collection bucket keyStart samples =>
        refine (tagged_shape legible).trans ?_
        simp only [branch, String.reduceEq, if_true, if_false]
        refine (struct_shape (by simp)).trans ?_
        simp [Fields.required_ofMembers, lookup_cons_eq_ite]
    | invalid error =>
        refine (tagged_shape legible).trans ?_
        simp only [branch, String.reduceEq, if_true, if_false]
        refine (struct_shape (by simp)).trans ?_
        simp [Fields.required_ofMembers]
  fits _ := trivial

theorem CredentialStatus.legible (c : CredentialStatus) (levels : Nat) :
    (Encodes.json c).Legible (levels + 1) := by
  refine .object ?_ ?_
  · have names := ((sublist_ifSome "account_id" c.accountId).append
      (sublist_ifSome "user_arn" c.userArn)).append (sublist_ifSome "error" c.error)
    simp only [List.map_cons, List.map_append]
    exact (names.cons_cons "configured").nodup (by decide)
  · simp only [List.forall_mem_cons, List.forall_mem_append]
    exact ⟨.bool _ _, ⟨ifSome_legible _, ifSome_legible _⟩, ifSome_legible _⟩

theorem CredentialStatus.faithful : Faithful CredentialStatus (fun _ => True) 1 where
  legible _ levels := CredentialStatus.legible _ levels
  decoder_shape {c} _ levels := by
    refine (struct_shape (distinct_of_legible (CredentialStatus.legible c levels))).trans ?_
    simp [Fields.required_ofMembers, Fields.optional_ofMembers, lookup_cons_eq_ite, lookup_ifSome,
      List.lookup_append]
  fits _ := trivial

theorem BinaryStatus.legible (b : BinaryStatus) (levels : Nat) :
    (Encodes.json b).Legible (levels + 1) := by
  refine .object ?_ ?_
  · have names := (sublist_ifSome "version" b.version).append (sublist_ifSome "error" b.error)
    simp only [List.map_cons, List.map_append]
    exact ((names.cons_cons "accessible").cons_cons "binary_path").nodup (by decide)
  · simp only [List.forall_mem_cons, List.forall_mem_append]
    exact ⟨.string _ _, .bool _ _, ifSome_legible _, ifSome_legible _⟩

theorem BinaryStatus.faithful : Faithful BinaryStatus (fun _ => True) 1 where
  legible _ levels := BinaryStatus.legible _ levels
  decoder_shape {b} _ levels := by
    refine (struct_shape (distinct_of_legible (BinaryStatus.legible b levels))).trans ?_
    simp [Fields.required_ofMembers, Fields.optional_ofMembers, lookup_cons_eq_ite, lookup_ifSome,
      List.lookup_append]
  fits _ := trivial

theorem ProbeOutcome.legible (p : ProbeOutcome) (levels : Nat) :
    (Encodes.json p).Legible (levels + 1) := by
  refine .object ?_ ?_
  · rw [List.map_cons]
    exact ((sublist_ifSome "error" p.error).cons_cons "reachable").nodup (by decide)
  · rw [List.forall_mem_cons]
    exact ⟨.bool _ _, ifSome_legible _⟩

theorem ProbeOutcome.faithful : Faithful ProbeOutcome (fun _ => True) 1 where
  legible _ levels := ProbeOutcome.legible _ levels
  decoder_shape {p} _ levels := by
    refine (struct_shape (distinct_of_legible (ProbeOutcome.legible p levels))).trans ?_
    simp [Fields.required_ofMembers, Fields.optional_ofMembers, lookup_cons_eq_ite, lookup_ifSome]
  fits _ := trivial

theorem Statistics.faithful :
    Faithful Statistics (fun s => s.totalRecords < wordBound ∧ s.fieldCount < wordBound) 2 where
  legible fit levels := by
    refine .object (by simp) ?_
    simp only [List.forall_mem_cons]
    exact ⟨nat_legible _ fit.1, .bool _ _, strings_legible levels _, nat_legible _ fit.2, by simp⟩
  decoder_shape fit levels := by
    refine (struct_shape (by simp)).trans ?_
    simp [Fields.required_ofMembers, lookup_cons_eq_ite, natural_shape fit.1, natural_shape fit.2]
  fits h := by
    obtain ⟨f, built⟩ := exists_fields_of_struct h
    simp only [Option.bind_eq_bind, Option.bind_eq_some_iff] at built
    obtain ⟨_, total, _, -, _, -, _, count, built⟩ := built
    obtain rfl := Option.some.inj built
    exact ⟨Fields.lt_of_required total, Fields.lt_of_required count⟩

/-! ### Listings -/

theorem ListPayload.members_eq (p : ListPayload) :
    EncodesMembers.members p =
      [("bucket", .string p.bucket), ("prefix", .string? p.keyStart),
        ("files", .array (p.files.map Encodes.json)), ("total_files", .nat p.totalFiles),
        ("total_size", .nat p.totalSize.toNat),
        ("total_size_formatted", .string p.totalSizeText)] := rfl

theorem ListPayload.faithful : Faithful ListPayload (fun p => p.totalFiles < wordBound) 3 where
  legible {p} fit levels := by
    have files : (Value.array (p.files.map Encodes.json)).Legible (levels + 2) := by
      refine .array fun v mem => ?_
      obtain ⟨file, -, rfl⟩ := List.mem_map.mp mem
      exact ObjectInfo.faithful.legible trivial levels
    refine .object (by simp [members_eq]) ?_
    simp only [members_eq, List.forall_mem_cons]
    exact ⟨.string _ _, string?_legible _ _, files, nat_legible _ fit,
      nat_legible _ (UInt64.toNat_lt _), .string _ _, by simp⟩
  decoder_shape {p} fit levels := by
    have files : list Decodes.decoder (levels + 2) (Value.array (p.files.map Encodes.json)).shape =
        some p.files :=
      list_shape fun file _ => ObjectInfo.faithful.decoder_shape trivial levels
    refine (struct_shape (by simp [members_eq])).trans ?_
    simp [members_eq, Fields.required_ofMembers, Fields.optional_ofMembers, lookup_cons_eq_ite,
      natural_shape fit, files]
  fits h := by
    obtain ⟨f, built⟩ := exists_fields_of_struct h
    simp only [Option.bind_eq_bind, Option.bind_eq_some_iff] at built
    obtain ⟨_, -, _, -, _, -, _, total, _, -, _, -, built⟩ := built
    obtain rfl := Option.some.inj built
    exact Fields.lt_of_required total

theorem ListInput.members_eq (i : ListInput) :
    EncodesMembers.members i = [("bucket", .string i.bucket), ("prefix", .string? i.keyStart)] :=
  rfl

theorem ListInput.faithful : Faithful ListInput (fun _ => True) 1 where
  legible _ levels := by
    refine .object (by simp [members_eq]) ?_
    simp only [members_eq, List.forall_mem_cons]
    exact ⟨.string _ _, string?_legible _ _, by simp⟩
  decoder_shape _ levels := by
    refine (struct_shape (by simp [members_eq])).trans ?_
    simp [members_eq, Fields.required_ofMembers, Fields.optional_ofMembers, lookup_cons_eq_ite]
  fits _ := trivial

/-! ### Responses -/

namespace Response

variable {α β : Type} [Decodes β]

/-- An error is read from its message and the other members. -/
theorem errorDecoder_shape {members : Members} (new : "error" ∉ members.map Prod.fst)
    {i : β} {levels : Nat} (read : Decodes.decoder levels (Value.object members).shape = some i)
    (message : String) :
    (errorDecoder levels (Value.object (("error", .string message) :: members)).shape :
      Option (Response α β)) = some (.error message i) := by
  have found : text levels (.string (codePoints message)) = some message :=
    text_shape levels message
  rw [Value.shape] at read
  simp [Value.shape, errorDecoder, takeMember?_memberShapes new, found, read]

variable [EncodesMembers α] [Decodes α] [EncodesMembers β] {FitsPayload : α → Prop}
  {FitsInput : β → Prop} {depth : Nat}

/-- The payload of a success and the input of an error fit. -/
def Fits (FitsPayload : α → Prop) (FitsInput : β → Prop) : Response α β → Prop
  | .success p => FitsPayload p
  | .error _ i => FitsInput i

/-- A text that is put in front of an object under a new name. -/
theorem legible_cons {members : Members} {levels : Nat} {name : String} (s : String)
    (new : name ∉ members.map Prod.fst) (legible : (Value.object members).Legible levels) :
    (Value.object ((name, .string s) :: members)).Legible levels := by
  cases legible with
  | object distinct each =>
      refine .object (List.nodup_cons.mpr ⟨new, distinct⟩) ?_
      exact List.forall_mem_cons.mpr ⟨.string _ s, each⟩

/-- A response that is read is a payload or an input that is read. -/
theorem fits_of_branch (payload : Faithful α FitsPayload depth) (input : Faithful β FitsInput depth)
    {name : String} {levels : Nat} {w : Written} {r : Response α β}
    (h : branch name levels w = some r) : r.Fits FitsPayload FitsInput := by
  unfold branch at h
  split at h
  · obtain ⟨p, read, rfl⟩ := Option.map_eq_some_iff.mp h
    exact payload.fits read
  · split at h
    · unfold errorDecoder at h
      split at h
      · simp only [Option.bind_eq_bind, Option.bind_eq_some_iff] at h
        obtain ⟨_, -, _, -, i, read, same⟩ := h
        obtain rfl := Option.some.inj same
        exact input.fits read
      · cases h
    · cases h

/-- **A response is faithful** when its payload and its input are and leave to it the names that it
uses itself. -/
theorem faithful (payload : Faithful α FitsPayload depth) (input : Faithful β FitsInput depth)
    (payloadNames : ∀ p : α, "status" ∉ (EncodesMembers.members p).map Prod.fst)
    (inputNames : ∀ i : β, "status" ∉ (EncodesMembers.members i).map Prod.fst ∧
      "error" ∉ (EncodesMembers.members i).map Prod.fst) :
    Faithful (Response α β) (Fits FitsPayload FitsInput) depth := by
  have legible : ∀ {r : Response α β}, r.Fits FitsPayload FitsInput → ∀ levels,
      (Encodes.json r).Legible (levels + depth) := by
    intro r fit levels
    cases r with
    | success p => exact legible_cons "success" (payloadNames p) (payload.legible fit levels)
    | error message i =>
        -- the message goes in front of what was asked, the status in front of both
        obtain ⟨status, error⟩ := inputNames i
        refine legible_cons "error" ?_ (legible_cons message error (input.legible fit levels))
        simpa using status
  refine ⟨legible, fun {r} fit levels => ?_, fun h => ?_⟩
  · cases r with
    | success p =>
        refine (tagged_shape (legible fit levels)).trans ?_
        simp only [branch, if_true]
        exact congrArg (Option.map success) (payload.decoder_shape fit levels)
    | error message i =>
        refine (tagged_shape (legible fit levels)).trans ?_
        simp only [branch, String.reduceEq, if_true, if_false]
        exact errorDecoder_shape (inputNames i).2 (input.decoder_shape fit levels) message
  · obtain ⟨name, w, read⟩ := exists_branch_of_tagged h
    exact fits_of_branch payload input read

end Response

/-- The response to a listing is faithful. -/
theorem Response.faithful_list :
    Faithful (Response ListPayload ListInput) (Fits (fun p => p.totalFiles < wordBound)
      (fun _ => True)) 3 :=
  faithful ListPayload.faithful (ListInput.faithful.mono (by decide))
    (fun p => by simp [ListPayload.members_eq]) fun i => by simp [ListInput.members_eq]

/-- **What the service is asked and what it answers is read as it was written**, and a text of it
that has been rewritten stays as it is.  Only whole numbers have to fit, in 64 bits. -/
theorem service_types_readBack :
    ReadsBack QueryRequest (fun r => r.limit < 2 ^ 64) ∧
    ReadsBack ExploreRequest (fun r => r.sampleSize < 2 ^ 64) ∧
    ReadsBack ListRequest (fun _ => True) ∧
    ReadsBack ObjectInfo (fun _ => True) ∧
    ReadsBack LocatorStatus (fun _ => True) ∧
    ReadsBack CredentialStatus (fun _ => True) ∧
    ReadsBack ProbeOutcome (fun _ => True) ∧
    ReadsBack BinaryStatus (fun _ => True) ∧
    ReadsBack Statistics (fun s => s.totalRecords < 2 ^ 64 ∧ s.fieldCount < 2 ^ 64) ∧
    ReadsBack (Response ListPayload ListInput)
      (Response.Fits (fun p => p.totalFiles < 2 ^ 64) fun _ => True) :=
  ⟨QueryRequest.faithful.readsBack (by decide), ExploreRequest.faithful.readsBack (by decide),
    ListRequest.faithful.readsBack (by decide), ObjectInfo.faithful.readsBack (by decide),
    LocatorStatus.faithful.readsBack (by decide), CredentialStatus.faithful.readsBack (by decide),
    ProbeOutcome.faithful.readsBack (by decide), BinaryStatus.faithful.readsBack (by decide),
    Statistics.faithful.readsBack (by decide), Response.faithful_list.readsBack (by decide)⟩

/-- Texts that a response uses itself, control characters, and numbers as large as they can be. -/
theorem service_types_readBack_largest :
    read? QueryRequest (write (⟨"\u0000\"\\\u2028", "", 18446744073709551615⟩ : QueryRequest)) =
      some ⟨"\u0000\"\\\u2028", "", 18446744073709551615⟩ ∧
    read? (Response ListPayload ListInput)
      (write (.success ⟨"error", some "status", [⟨"", 0, "", "", "", ""⟩], 18446744073709551615, 1,
        "success"⟩ : Response ListPayload ListInput)) =
      some (.success ⟨"error", some "status", [⟨"", 0, "", "", "", ""⟩], 18446744073709551615, 1,
        "success"⟩) ∧
    read? (Response ListPayload ListInput)
      (write (.error "success" ⟨"error", none⟩ : Response ListPayload ListInput)) =
      some (.error "success" ⟨"error", none⟩) := by
  obtain ⟨query, -, -, -, -, -, -, -, -, response⟩ := service_types_readBack
  exact ⟨query.read?_write _ (by decide), response.read?_write _ (by simp [Response.Fits]),
    response.read?_write _ trivial⟩

end Enquiry
