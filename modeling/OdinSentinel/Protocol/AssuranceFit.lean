import OdinSentinel.Protocol.GovernedContext

/-!
# The fit of an assurance

What the classifier asks of a proof on a harness that has nothing but the MCP server.  The
type of source that a proof declares is held against the role, not against the harness.
-/

namespace OdinSentinel.Readiness

open JsText Host Unicode RoleIdentity

variable {host : HostRuntime} {tables : Tables}

theorem sourceTypeToAssurance_bootstrap_iff {sourceType : JsValue} :
    sourceTypeToAssurance sourceType = .mcpBootstrap ↔ sourceType = .string (js "mcp_bootstrap") := by
  constructor
  · intro hsource
    cases sourceType with
    | string text =>
        dsimp only [sourceTypeToAssurance] at hsource
        by_cases hnative : text = js "native_skill"
        · rw [if_pos hnative] at hsource
          cases hsource
        by_cases hstatic : text = js "static_control_file"
        · rw [if_neg hnative, if_pos hstatic] at hsource
          cases hsource
        by_cases hsame : text = js "mcp_bootstrap"
        · rw [hsame]
        · rw [if_neg hnative, if_neg hstatic, if_neg hsame] at hsource
          cases hsource
    | _ => cases hsource
  · rintro rfl
    decide

/-- A checked proof has the assurance of the type of source that it declares. -/
theorem proofAssurance_source {proof : JsValue} {assurance : AssuranceLevel}
    (hassurance : (validateGovernedContextProof host proof).proofAssurance = some assurance) :
    sourceTypeToAssurance (proof.field (js "source_type")) = assurance := by
  cases proof with
  | object fields =>
      rw [validateGovernedContextProof] at hassurance
      by_cases hreasons : proofReasons host (.object fields) = []
      · rw [if_pos hreasons] at hassurance
        exact Option.some.inj hassurance
      · rw [if_neg hreasons] at hassurance
        cases hassurance
  | _ => cases hassurance

/-- A role of high authority needs a static control file of a harness without one. -/
theorem requiredAssurance_mcpOnly : requiredAssurance .mcpOnly true = .staticControlFile := rfl

theorem static_le_rank_iff {assurance : AssuranceLevel} (hsome : assurance ≠ .none) :
    AssuranceLevel.staticControlFile.rank ≤ assurance.rank ↔ assurance ≠ .mcpBootstrap := by
  cases assurance with
  | none => exact absurd rfl hsome
  | mcpBootstrap => decide
  | staticControlFile => decide
  | nativeSkill => decide

/-- On a harness with nothing but the MCP server a role of high authority is kept from
readiness exactly by a live blocker, an invalid proof or one that declares the bootstrap. -/
theorem mcpOnly_unready_iff (input : GovernedReadinessInput)
    (hcategory : harnessCategory tables input.harness = .mcpOnly)
    (hhigh : isHighAuthorityRole tables input.requestedRole = true) :
    (classifyGovernedReadiness host tables input).state ≠ .governedReady ↔
      liveBlockers input ≠ [] ∨
      (validateGovernedContextProof host input.governedContextProof).valid = false ∨
      input.governedContextProof.field (js "source_type") = .string (js "mcp_bootstrap") := by
  rw [Ne, governedReady_iff, hcategory, hhigh, requiredAssurance_mcpOnly]
  cases hvalid : (validateGovernedContextProof host input.governedContextProof).valid with
  | false => simp
  | true =>
      obtain ⟨assurance, hassurance, hsome⟩ := validateGovernedContextProof_valid host hvalid
      rw [← sourceTypeToAssurance_bootstrap_iff, proofAssurance_source hassurance, hassurance]
      have hrank := static_le_rank_iff hsome
      constructor
      · intro hunready
        by_contra hready
        rw [not_or, not_not, not_or] at hready
        obtain ⟨hlive, -, hstrong⟩ := hready
        exact hunready ⟨(by decide), hlive, assurance, rfl, rfl, hrank.mpr hstrong⟩
      · rintro (hlive | hinvalid | hweak) ⟨-, hclear, other, -, hsame, hle⟩
        · exact hlive hclear
        · cases hinvalid
        · obtain rfl := Option.some.inj hsame
          exact hrank.mp hle hweak

/-- A proof on `droid` that declares the native skill. -/
def nativeProof : JsValue := .object
  [(js "schema", .string governedContextProofSchema), (js "role", .string (js "PM")),
    (js "harness", .string (js "droid")), (js "source_type", .string (js "native_skill")),
    (js "generated_at", .string (js "2026")),
    (js "control_source", .object [(js "marker", .string (js "scp"))]),
    (js "uptake_receipt", .object
      [(js "observed", .bool true), (js "evidence_marker", .string (js "scp")),
        (js "method", .string (js "read"))])]

def droidInput : GovernedReadinessInput where
  harness := js "droid"
  requestedRole := some (js "TEAM-PM")
  governedContextProof := nativeProof
  hooksAvailable := some true

theorem nativeProof_valid : (validateGovernedContextProof plainHost nativeProof).valid = true := by
  decide +kernel

theorem droidInput_category : harnessCategory smallTables droidInput.harness = .mcpOnly := by
  decide

theorem droidInput_high : isHighAuthorityRole smallTables droidInput.requestedRole = true := by
  decide

theorem mcpOnly_unready_iff_droid :
    (classifyGovernedReadiness plainHost smallTables droidInput).state ≠ .governedReady ↔
      liveBlockers droidInput ≠ [] ∨
      (validateGovernedContextProof plainHost droidInput.governedContextProof).valid = false ∨
      droidInput.governedContextProof.field (js "source_type") = .string (js "mcp_bootstrap") :=
  mcpOnly_unready_iff droidInput droidInput_category droidInput_high

/-- A declared native skill makes a project manager on `droid` ready. -/
theorem droid_ready : ¬∀ (host : HostRuntime) (tables : Tables) (input : GovernedReadinessInput),
    harnessCategory tables input.harness = .mcpOnly →
      isHighAuthorityRole tables input.requestedRole = true →
      (classifyGovernedReadiness host tables input).state ≠ .governedReady := by
  intro hnever
  apply hnever plainHost smallTables droidInput droidInput_category droidInput_high
  obtain ⟨assurance, hassurance, hsome⟩ :=
    validateGovernedContextProof_valid plainHost nativeProof_valid
  have hstrong : assurance ≠ .mcpBootstrap := by
    rw [← proofAssurance_source hassurance]
    decide
  rw [governedReady_iff, droidInput_category, droidInput_high, requiredAssurance_mcpOnly]
  exact ⟨(by decide), (by decide), assurance, nativeProof_valid, hassurance,
    (static_le_rank_iff hsome).mpr hstrong⟩

end OdinSentinel.Readiness
