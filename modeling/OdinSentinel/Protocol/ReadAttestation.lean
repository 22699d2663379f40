import OdinSentinel.Core.Fallible
import OdinSentinel.Protocol.InstructionRead

/-!
# What a read proof attests

The script accepts a proof exactly when every file of it stands on disk with the recorded
digest and byte count; and a recorded proof is accepted later exactly while the files that it
was recorded from have not changed in these.
-/

namespace OdinSentinel.InstructionRead

open JsText Host Json ContextScript

/-! ## One entry -/

/-- An entry names a file that stands on disk as the entry says. -/
structure Attested (world : World) (base : JsString) (entry : JsValue) (bytes : List UInt8) :
    Prop where
  path : trim (entryPath entry) ≠ []
  file : world.disk (resolveEntryPath base (entryPath entry)) = .file bytes
  digest : (entry.field (js "sha256")).asString = some (world.sha256 bytes)
  digest_some : trim (world.sha256 bytes) ≠ []
  count : ∀ recorded, asNumber (entry.field (js "bytes")) = some recorded →
    recorded = .ofNat bytes.length

section Entry

variable {world : World} {base : JsString} {entry : JsValue} {bytes : List UInt8}

theorem digestReasons_eq_nil_iff : digestReasons world entry bytes = [] ↔
    (entry.field (js "sha256")).asString = some (world.sha256 bytes) ∧
      trim (world.sha256 bytes) ≠ [] := by
  rw [digestReasons]
  cases (entry.field (js "sha256")).asString with
  | none => exact iff_of_false (List.cons_ne_nil _ _) fun hboth => by cases hboth.1
  | some recorded =>
      simp only [Option.some.injEq]
      by_cases hblank : trim recorded = []
      · rw [if_pos hblank]
        exact iff_of_false (List.cons_ne_nil _ _) fun hboth => hboth.2 (hboth.1 ▸ hblank)
      · rw [if_neg hblank]
        by_cases heq : recorded = world.sha256 bytes
        · rw [if_neg (not_not_intro heq)]
          exact iff_of_true rfl ⟨heq, heq ▸ hblank⟩
        · rw [if_pos heq]
          exact iff_of_false (List.cons_ne_nil _ _) fun hboth => heq hboth.1

theorem countReasons_eq_nil_iff : countReasons world entry bytes = [] ↔
    ∀ recorded, asNumber (entry.field (js "bytes")) = some recorded →
      recorded = .ofNat bytes.length := by
  rw [countReasons]
  cases asNumber (entry.field (js "bytes")) with
  | none => exact iff_of_true rfl nofun
  | some recorded =>
      by_cases heq : recorded = .ofNat bytes.length
      · simp [heq]
      · simp [heq]

theorem verifyEntry_passed_iff :
    (∃ result, verifyEntry world base entry = .ok result ∧ result.passed = true) ↔
      ∃ bytes, Attested world base entry bytes := by
  rw [verifyEntry]
  by_cases hpath : trim (entryPath entry) = []
  · simp only [if_pos hpath]
    apply iff_of_false
    · rintro ⟨result, hresult, hpassed⟩
      cases hresult
      cases hpassed
    · rintro ⟨bytes, hattested⟩
      exact hattested.path hpath
  · simp only [if_neg hpath]
    cases hdisk : world.disk (resolveEntryPath base (entryPath entry)) with
    | missing | notFile =>
        apply iff_of_false
        · rintro ⟨result, hresult, hpassed⟩
          cases hresult
          cases hpassed
        · rintro ⟨bytes, hattested⟩
          exact absurd (hdisk.symm.trans hattested.file) nofun
    | unreadable =>
        apply iff_of_false
        · rintro ⟨result, hresult, -⟩
          cases hresult
        · rintro ⟨bytes, hattested⟩
          exact absurd (hdisk.symm.trans hattested.file) nofun
    | file bytes =>
        have hreasons : entryReasons world entry bytes = [] ↔ Attested world base entry bytes := by
          rw [entryReasons, List.append_eq_nil_iff, digestReasons_eq_nil_iff,
            countReasons_eq_nil_iff]
          constructor
          · rintro ⟨⟨hdigest, hsome⟩, hcount⟩
            exact ⟨hpath, hdisk, hdigest, hsome, hcount⟩
          · intro hattested
            exact ⟨⟨hattested.digest, hattested.digest_some⟩, hattested.count⟩
        constructor
        · rintro ⟨result, hresult, hpassed⟩
          cases hresult
          exact ⟨bytes, hreasons.mp (List.isEmpty_iff.mp hpassed)⟩
        · rintro ⟨other, hattested⟩
          have hsame : bytes = other := DiskEntry.file.inj (hdisk.symm.trans hattested.file)
          exact ⟨_, rfl, List.isEmpty_iff.mpr (hreasons.mpr (hsame ▸ hattested))⟩

end Entry

/-! ## A proof -/

theorem ok_iff {base : JsString} {results : List EntryResult} :
    (ProofResult.mk base results none).ok = true ↔ ∀ result ∈ results, result.passed = true := by
  rw [ProofResult.ok, ProofResult.passed, Bool.and_eq_true, beq_iff_eq, List.countP_eq_length]
  exact and_iff_right rfl

theorem verifyProof_ok_iff {world : World} {proof : JsValue} {base : JsString} :
    (∃ result, verifyProof world proof base = .ok result ∧ result.ok = true) ↔
      ∃ entries, proof.field (js "files") = .array entries ∧ entries ≠ [] ∧
        ∀ entry ∈ entries, ∃ bytes, Attested world base entry bytes := by
  have hnone : ∀ value, (∃ result : ProofResult, Except.ok (ε := JsString)
      ⟨base, [], some value⟩ = .ok result ∧ result.ok = true) → False := by
    rintro value ⟨result, hresult, hok⟩
    cases hresult
    cases hok
  rw [verifyProof]
  split
  · rename_i entry entries hfiles
    rw [hfiles]
    have hall := @Fallible.exists_mapM_forall _ _ _ (verifyEntry world base)
      (fun result => result.passed = true) (entry :: entries)
    simp only [verifyEntry_passed_iff] at hall
    constructor
    · rintro ⟨result, hresult, hok⟩
      obtain ⟨results, hresults, hreturn⟩ := Fallible.do_eq_ok.mp hresult
      cases hreturn
      exact ⟨_, rfl, List.cons_ne_nil _ _, hall.mp ⟨results, hresults, ok_iff.mp hok⟩⟩
    · rintro ⟨files, hsame, -, hattested⟩
      cases hsame
      obtain ⟨results, hresults, hpassed⟩ := hall.mpr hattested
      exact ⟨⟨base, results, none⟩, Fallible.do_eq_ok.mpr ⟨results, hresults, rfl⟩,
        ok_iff.mpr hpassed⟩
  · rename_i hfiles
    apply iff_of_false (hnone _)
    rintro ⟨entries, hsame, hsome, -⟩
    cases entries with
    | nil => exact hsome rfl
    | cons entry entries => exact hfiles entry entries hsame

/-- What the script finds in the file of a proof, if it accepts. -/
structure Accepted (world : World) (base proofPath : JsString) (entries : List JsValue) :
    Prop where
  reads : ∃ bytes proof, world.disk (world.fromCwd proofPath) = .file bytes ∧
    Json.parse (world.utf8Text bytes) = some proof ∧
    proof.field (js "files") = .array entries
  some_entry : entries ≠ []
  attested : ∀ entry ∈ entries, ∃ bytes, Attested world base entry bytes

theorem readFileSync_ok {world : World} {path : JsString} {bytes : List UInt8} :
    world.readFileSync path = .ok bytes ↔ world.disk path = .file bytes := by
  rw [World.readFileSync]
  cases world.disk path <;> simp

theorem verifyMain_exit_zero {world : World} {args : Args} {proofPath : JsString} :
    (verifyMain world args proofPath).exit = 0 ↔
      ∃ entries, Accepted world args.base proofPath entries := by
  rw [verifyMain]
  cases hread : world.readFileSync (world.fromCwd proofPath) with
  | error message =>
      have htwo : (2 : Nat) ≠ 0 := by decide
      apply iff_of_false htwo
      rintro ⟨entries, ⟨bytes, proof, hfile, -⟩, -⟩
      exact absurd (hread.symm.trans (readFileSync_ok.mpr hfile)) nofun
  | ok bytes =>
      have hfile := readFileSync_ok.mp hread
      have hbytes : ∀ {other : List UInt8}, world.disk (world.fromCwd proofPath) = .file other →
          bytes = other := fun hother => DiskEntry.file.inj (hfile.symm.trans hother)
      cases hparse : Json.parse (world.utf8Text bytes) with
      | none =>
          simp only [hparse]
          apply iff_of_false (by decide)
          rintro ⟨entries, ⟨other, proof, hother, hproof, -⟩, -⟩
          rw [← hbytes hother, hparse] at hproof
          cases hproof
      | some proof =>
          have hok := @verifyProof_ok_iff world proof args.base
          have haccepted : (∃ entries, Accepted world args.base proofPath entries) ↔
              ∃ entries, proof.field (js "files") = .array entries ∧ entries ≠ [] ∧
                ∀ entry ∈ entries, ∃ bytes, Attested world args.base entry bytes := by
            constructor
            · rintro ⟨entries, ⟨other, read, hother, hproof, hfiles⟩, hsome, hattested⟩
              rw [← hbytes hother, hparse] at hproof
              cases hproof
              exact ⟨entries, hfiles, hsome, hattested⟩
            · rintro ⟨entries, hfiles, hsome, hattested⟩
              exact ⟨entries, ⟨bytes, proof, hfile, hparse, hfiles⟩, hsome, hattested⟩
          rw [haccepted, ← hok]
          simp only [hparse]
          cases hverify : verifyProof world proof args.base with
          | error message =>
              have hone : (1 : Nat) ≠ 0 := by decide
              apply iff_of_false hone
              rintro ⟨result, hresult, -⟩
              cases hresult
          | ok result =>
              constructor
              · intro hexit
                refine ⟨result, rfl, ?_⟩
                change (if result.ok = true then 0 else 1) = 0 at hexit
                by_contra hfails
                rw [if_neg hfails] at hexit
                cases hexit
              · rintro ⟨other, hother, hpassed⟩
                cases hother
                exact if_pos hpassed

/-- In its own mode the script ends with 0 exactly where the proof that it is given names at
least one file, and every file that it names stands on disk with the recorded digest and,
where one is recorded, the recorded byte count. -/
theorem verify_exit_zero_iff {world : World} {argv : List JsString}
    (hhelp : (parseArgs argv { }).help = false) (hrecord : (parseArgs argv { }).record = false) :
    (main world argv).exit = 0 ↔
      ∃ proofPath rest entries, (parseArgs argv { }).positional = proofPath :: rest ∧
        proofPath ≠ [] ∧ Accepted world (parseArgs argv { }).base proofPath entries := by
  have htwo : (2 : Nat) ≠ 0 := by decide
  rw [main]
  simp only [hhelp, hrecord, Bool.false_eq_true, if_false]
  cases hpositional : (parseArgs argv { }).positional with
  | nil =>
      apply iff_of_false htwo
      rintro ⟨proofPath, rest, entries, hsame, -⟩
      cases hsame
  | cons proofPath rest =>
      cases proofPath with
      | nil =>
          apply iff_of_false htwo
          rintro ⟨proofPath, rest, entries, hsame, hsome, -⟩
          cases hsame
          exact hsome rfl
      | cons unit proofPath =>
          simp only [verifyMain_exit_zero]
          constructor
          · rintro ⟨entries, haccepted⟩
            exact ⟨_, _, entries, rfl, List.cons_ne_nil _ _, haccepted⟩
          · rintro ⟨path, others, entries, hsame, -, haccepted⟩
            cases hsame
            exact ⟨entries, haccepted⟩

/-! ## A recorded proof -/

/-- Byte and line counts that the runtime holds exactly. -/
structure Countable (world : World) (files : List JsString) (base : JsString) : Prop where
  files_lt : files.length < 2 ^ 53
  bytes_lt : ∀ path ∈ files, ∀ bytes, world.disk (resolveEntryPath base path) = .file bytes →
    bytes.length < 2 ^ 53 ∧ world.countLines bytes < 2 ^ 53

/-- The entry that is recorded for a file's bytes. -/
def recorded (world : World) (path : JsString) (bytes : List UInt8) : JsValue :=
  .object
    [(js "path", .string path), (js "bytes", .number (.ofNat bytes.length)),
      (js "lines", .number (.ofNat (world.countLines bytes))),
      (js "sha256", .string (world.sha256 bytes)), (js "read", .string (js "full"))]

theorem recordEntry_ok {world : World} {base path : JsString} {entry : JsValue} :
    recordEntry world base path = .ok entry ↔
      ∃ bytes, world.disk (resolveEntryPath base path) = .file bytes ∧
        entry = recorded world path bytes := by
  rw [recordEntry, Fallible.do_eq_ok]
  simp only [readFileSync_ok]
  apply exists_congr
  intro bytes
  exact and_congr_right fun _ => ⟨fun hsame => (Except.ok.inj hsame).symm, fun hsame => congrArg _ hsame.symm⟩

theorem plain_recorded {world : World} {path : JsString} {bytes : List UInt8}
    (hbytes : bytes.length < 2 ^ 53) (hlines : world.countLines bytes < 2 ^ 53) :
    Plain (recorded world path bytes) := by
  refine ⟨?_, trivial, ⟨_, hbytes, rfl⟩, ⟨_, hlines, rfl⟩, trivial, trivial, trivial⟩
  show [js "path", js "bytes", js "lines", js "sha256", js "read"].Nodup
  decide

theorem attested_recorded {world later : World} {base path : JsString} {bytes new : List UInt8}
    (hdigest : trim (later.sha256 new) ≠ []) :
    Attested later base (recorded world path bytes) new ↔
      trim path ≠ [] ∧ later.disk (resolveEntryPath base path) = .file new ∧
        later.sha256 new = world.sha256 bytes ∧ new.length = bytes.length := by
  have hpath : entryPath (recorded world path bytes) = path := rfl
  have hsha : ((recorded world path bytes).field (js "sha256")).asString =
      some (world.sha256 bytes) := rfl
  have hcount : asNumber ((recorded world path bytes).field (js "bytes")) =
      some (.ofNat bytes.length) := rfl
  constructor
  · intro hattested
    have hlength := hattested.count _ hcount
    refine ⟨hattested.path, hattested.file,
      (Option.some.inj (hsha.symm.trans hattested.digest)).symm, ?_⟩
    exact (Nat.cast_injective (JsNumber.finite.inj hlength)).symm
  · rintro ⟨hblank, hfile, hsame, hlength⟩
    refine ⟨hblank, hfile, hsha.trans (congrArg some hsame.symm), hdigest, ?_⟩
    rintro found hfound
    rw [hcount] at hfound
    cases hfound
    rw [hlength]

/-- A later disk holds a recorded file with the recorded byte count and digest. -/
def Unchanged (world later : World) (base path : JsString) : Prop :=
  trim path ≠ [] ∧ ∃ bytes new, world.disk (resolveEntryPath base path) = .file bytes ∧
    later.disk (resolveEntryPath base path) = .file new ∧
    later.sha256 new = world.sha256 bytes ∧ new.length = bytes.length

/-- The proof that is recorded with its entries. -/
def recordedProof (world : World) (role : JsString) (entries : List JsValue) : JsValue :=
  .object
    [(js "schema", .string (js "odin.instruction_read_proof.v1")), (js "role", .string role),
      (js "generated_at", .string world.now), (js "base", .string (js ".")),
      (js "file_count", .number (.ofNat entries.length)), (js "files", .array entries)]

theorem recordProof_ok {world : World} {files : List JsString} {base role : JsString}
    {proof : JsValue} (hproof : recordProof world files base role = .ok proof) :
    ∃ entries, proof = recordedProof world role entries ∧
      List.Forall₂ (fun path entry => ∃ bytes,
        world.disk (resolveEntryPath base path) = .file bytes ∧
          entry = recorded world path bytes) files entries := by
  obtain ⟨entries, hentries, hreturn⟩ := Fallible.do_eq_ok.mp hproof
  refine ⟨entries, (Except.ok.inj hreturn).symm, ?_⟩
  exact (Fallible.mapM_eq_ok_iff.mp hentries).imp fun _ _ hentry => recordEntry_ok.mp hentry

theorem plain_entries {world : World} {files : List JsString} {base : JsString}
    {entries : List JsValue} (hfiles : ∀ path ∈ files, ∀ bytes,
      world.disk (resolveEntryPath base path) = .file bytes →
        bytes.length < 2 ^ 53 ∧ world.countLines bytes < 2 ^ 53)
    (hentries : List.Forall₂ (fun path entry => ∃ bytes,
      world.disk (resolveEntryPath base path) = .file bytes ∧
        entry = recorded world path bytes) files entries) : PlainItems entries := by
  induction hentries with
  | nil => trivial
  | cons hentry _ ih =>
      obtain ⟨bytes, hbytes, rfl⟩ := hentry
      obtain ⟨hlength, hlines⟩ := hfiles _ List.mem_cons_self bytes hbytes
      exact ⟨plain_recorded hlength hlines,
        ih fun path hpath => hfiles path (List.mem_cons_of_mem _ hpath)⟩

theorem attested_iff_unchanged {world later : World} {files : List JsString} {base : JsString}
    {entries : List JsValue} (hdigest : ∀ bytes, trim (later.sha256 bytes) ≠ [])
    (hentries : List.Forall₂ (fun path entry => ∃ bytes,
      world.disk (resolveEntryPath base path) = .file bytes ∧
        entry = recorded world path bytes) files entries) :
    (∀ entry ∈ entries, ∃ bytes, Attested later base entry bytes) ↔
      ∀ path ∈ files, Unchanged world later base path := by
  induction hentries with
  | nil => exact iff_of_true (List.forall_mem_nil _) (List.forall_mem_nil _)
  | @cons path entry _ _ hentry _ ih =>
      obtain ⟨bytes, hbytes, rfl⟩ := hentry
      rw [List.forall_mem_cons, List.forall_mem_cons, ih]
      apply and_congr_left'
      simp only [attested_recorded (hdigest _)]
      constructor
      · rintro ⟨new, hblank, hnew, hsame, hlength⟩
        exact ⟨hblank, bytes, new, hbytes, hnew, hsame, hlength⟩
      · rintro ⟨hblank, other, new, hother, hnew, hsame, hlength⟩
        cases hbytes.symm.trans hother
        exact ⟨new, hblank, hnew, hsame, hlength⟩

/-- A call of the script that records a proof, and the text that it writes. -/
structure Records (world : World) (argv : List JsString) (text : JsString) : Prop where
  help : (parseArgs argv { }).help = false
  record : (parseArgs argv { }).record = true
  written : main world argv = ⟨[text], [], 0⟩

/-- A call of the script on a proof file, with a base. -/
structure Verifies (argv : List JsString) (base proofPath : JsString) : Prop where
  help : (parseArgs argv { }).help = false
  record : (parseArgs argv { }).record = false
  base_eq : (parseArgs argv { }).base = base
  positional : (parseArgs argv { }).positional = [proofPath]
  some_path : proofPath ≠ []

theorem Records.proof {world : World} {argv : List JsString} {text : JsString}
    (hrecords : Records world argv text) :
    ∃ proof, (parseArgs argv { }).positional ≠ [] ∧
      recordProof world (parseArgs argv { }).positional (parseArgs argv { }).base
        (parseArgs argv { }).role = .ok proof ∧
      text = indentedText world.toHostRuntime proof := by
  have hwritten := hrecords.written
  have htwo : ∀ stdout stderr : List JsString, (⟨stdout, stderr, 2⟩ : Outcome) ≠ ⟨[text], [], 0⟩ :=
    fun _ _ heq => absurd (Outcome.mk.inj heq).2.2 (by decide)
  rw [main] at hwritten
  simp only [hrecords.help, hrecords.record, Bool.false_eq_true, if_false, if_true] at hwritten
  cases hfiles : (parseArgs argv { }).positional with
  | nil =>
      rw [hfiles] at hwritten
      exact absurd hwritten (htwo _ _)
  | cons path files =>
      rw [hfiles] at hwritten
      cases hproof : recordProof world (path :: files) (parseArgs argv { }).base
          (parseArgs argv { }).role with
      | error message =>
          simp only [hproof] at hwritten
          exact absurd hwritten (htwo _ _)
      | ok proof =>
          simp only [hproof] at hwritten
          exact ⟨proof, List.cons_ne_nil _ _, rfl,
            (List.singleton_inj.mp (Outcome.mk.inj hwritten).1).symm⟩

/-- A proof that the script recorded and that is given back to it, in any later state of the
disk, is accepted exactly while every file that it was recorded from has its byte count and
its digest, and none of them goes under a blank name. -/
theorem recorded_proof_accepted_iff {world later : World} {argv again : List JsString}
    {text proofPath : JsString} {bytes : List UInt8} (hrecords : Records world argv text)
    (hcountable : Countable world (parseArgs argv { }).positional (parseArgs argv { }).base)
    (hverifies : Verifies again (parseArgs argv { }).base proofPath)
    (hstored : later.disk (later.fromCwd proofPath) = .file bytes)
    (htext : later.utf8Text bytes = text ++ js "\n")
    (hdigest : ∀ bytes, trim (later.sha256 bytes) ≠ []) :
    (main later again).exit = 0 ↔
      ∀ path ∈ (parseArgs argv { }).positional,
        Unchanged world later (parseArgs argv { }).base path := by
  obtain ⟨proof, hfiles, hproof, rfl⟩ := hrecords.proof
  obtain ⟨entries, rfl, hentries⟩ := recordProof_ok hproof
  have hlength : entries.length = (parseArgs argv { }).positional.length := hentries.length_eq.symm
  have hplain : Plain (recordedProof world (parseArgs argv { }).role entries) := by
    refine ⟨?_, trivial, trivial, trivial, trivial, ⟨_, hlength ▸ hcountable.files_lt, rfl⟩,
      plain_entries hcountable.bytes_lt hentries, trivial⟩
    show [js "schema", js "role", js "generated_at", js "base", js "file_count", js "files"].Nodup
    decide
  have hparse : Json.parse (later.utf8Text bytes) =
      some (recordedProof world (parseArgs argv { }).role entries) := by
    rw [htext]
    exact parse_indentedText hplain (List.forall_mem_singleton.mpr rfl)
  rw [verify_exit_zero_iff hverifies.help hverifies.record, hverifies.positional,
    hverifies.base_eq, ← attested_iff_unchanged hdigest hentries]
  constructor
  · rintro ⟨path, rest, found, hpath, -, ⟨other, proof, hother, hread, hfound⟩, -, hattested⟩
    cases hpath
    cases hstored.symm.trans hother
    rw [hparse] at hread
    cases hread
    cases hfound
    exact hattested
  · intro hattested
    refine ⟨proofPath, [], entries, rfl, hverifies.some_path,
      ⟨bytes, _, hstored, hparse, rfl⟩, ?_, hattested⟩
    rintro rfl
    exact hfiles (List.length_eq_zero_iff.mp hlength.symm)

/-- The digests of no bytes and of `abc`, the latter also for all other bytes. -/
def sampleDigest (bytes : List UInt8) : JsString :=
  if bytes = [] then js "e3b0c44298fc1c149afbf4c8996fb92427ae41e4649b934ca495991b7852b855"
  else js "ba7816bf8f01cfea414140de5dae2223b00361a396177a9cb410ff61f20015ad"

/-- A machine whose texts are all ASCII. -/
def sampleWorld (disk : Disk) : World :=
  { plainHost with
    sha256 := sampleDigest
    utf8Text := fun bytes => bytes.map UInt8.toUInt16
    disk := disk
    usage := []
    now := js "2026-11-03T00:00:00.000Z"
    fromCwd := id
    readMessage := id
    parseMessage := id }

/-- One file, with the text `abc`. -/
def letterFile : Disk := fun path =>
  if path = js "/a.md" then .file [97, 98, 99] else .missing

/-- Its proof, in parts, which evaluate faster than one literal. -/
def letterProof : JsString :=
  js "\x7b\n  \"schema\": \"odin.instruction_" ++
    (js "read_proof.v1\",\n  \"role\": \"UNDECLARED\",\n" ++
      (js "  \"generated_at\": \"2026-11-03T00:00:00.000Z\",\n" ++
        (js "  \"base\": \".\",\n  \"file_count\": 1,\n" ++
          (js "  \"files\": [\n    \x7b\n      \"path\": \"/a.md\",\n" ++
            (js "      \"bytes\": 3,\n      \"lines\": 0,\n" ++
              (js "      \"sha256\": \"ba7816bf8f01cfea41414" ++
                (js "0de5dae2223b00361a396177a9cb410ff61f20015ad\",\n" ++
                  js "      \"read\": \"full\"\n    \x7d\n  ]\n\x7d")))))))

def provedFile : Disk := fun path =>
  if path = js "/proof.json" then .file ((letterProof ++ js "\n").map UInt16.toUInt8)
  else letterFile path

theorem records_letterFile :
    Records (sampleWorld letterFile) [js "--record", js "/a.md"] letterProof :=
  ⟨by decide, by decide, by decide +kernel⟩

theorem letterProof_exit : (main (sampleWorld provedFile) [js "/proof.json"]).exit = 0 := by
  decide +kernel

theorem utf8Text_sampleWorld (disk : Disk) (bytes : List UInt8) :
    (sampleWorld disk).utf8Text bytes = bytes.map UInt8.toUInt16 := rfl

theorem utf8Text_letterProof : (sampleWorld provedFile).utf8Text
    ((letterProof ++ js "\n").map UInt16.toUInt8) = letterProof ++ js "\n" := by
  have hascii : ((letterProof ++ js "\n").all fun unit => unit.toUInt8.toUInt16 == unit) = true := by
    decide +kernel
  have hunits : ∀ unit ∈ letterProof ++ js "\n", (UInt8.toUInt16 ∘ UInt16.toUInt8) unit = id unit :=
    fun unit hunit => eq_of_beq (List.all_eq_true.mp hascii unit hunit)
  rw [utf8Text_sampleWorld, List.map_map, List.map_congr_left hunits]
  exact List.map_id _

theorem letterProof_accepted :
    ∃ proofPath rest entries, (parseArgs [js "/proof.json"] { }).positional = proofPath :: rest ∧
      proofPath ≠ [] ∧ Accepted (sampleWorld provedFile) (parseArgs [js "/proof.json"] { }).base
        proofPath entries :=
  (verify_exit_zero_iff (by decide) (by decide)).mp letterProof_exit

theorem countable_letterFile :
    Countable (sampleWorld letterFile) (parseArgs [js "--record", js "/a.md"] { }).positional
      (parseArgs [js "--record", js "/a.md"] { }).base := by
  refine ⟨by decide, fun path _ bytes hbytes => ?_⟩
  have hletters : bytes = [97, 98, 99] := by
    change letterFile _ = .file bytes at hbytes
    rw [letterFile] at hbytes
    split_ifs at hbytes
    exact (DiskEntry.file.inj hbytes).symm
  subst hletters
  exact ⟨by decide, by decide⟩

theorem sampleDigest_some (bytes : List UInt8) : trim (sampleDigest bytes) ≠ [] := by
  rw [sampleDigest]
  split_ifs
  · decide
  · decide

theorem letterProof_accepted_iff :
    (main (sampleWorld provedFile) [js "/proof.json"]).exit = 0 ↔
      ∀ path ∈ (parseArgs [js "--record", js "/a.md"] { }).positional,
        Unchanged (sampleWorld letterFile) (sampleWorld provedFile)
          (parseArgs [js "--record", js "/a.md"] { }).base path :=
  @recorded_proof_accepted_iff _ _ _ _ _ (js "/proof.json")
    ((letterProof ++ js "\n").map UInt16.toUInt8) records_letterFile countable_letterFile
    ⟨by decide, by decide, by decide, by decide, by decide⟩
    (show provedFile (js "/proof.json") = _ from if_pos rfl) utf8Text_letterProof
    sampleDigest_some

end OdinSentinel.InstructionRead
