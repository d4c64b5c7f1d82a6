import Mealy.Context.Compile
import Mealy.Lib.ReservedGreedy

/-! The loop of the context compiler is a greedy selection that reserves the tokens of the
user sources still to come. In an address space of 64 bits no sum of estimates overflows,
so the checked and saturating additions are plain ones. -/

namespace Mealy.Context
open Transaction ReservedGreedy

/-! ### Estimates -/

theorem estimateTokens_le (text) : estimateTokens text ≤ text.utf8ByteSize := by
  unfold estimateTokens
  omega

theorem sum_tokens_le (sources : List AgentContextSource) :
    (sources.map AgentContextSource.tokens).sum ≤
      (sources.map fun source => source.message.content.utf8ByteSize + 1).sum := by
  induction sources with
  | nil => exact Nat.le_refl _
  | cons source rest ih =>
    have first := estimateTokens_le source.message.content
    simp only [List.map_cons, List.sum_cons, AgentContextSource.tokens] at ih ⊢
    omega

theorem ContextInput.tokens_bounded (input : ContextInput) :
    estimateTokens input.epoch.baselineText + (input.sources.map AgentContextSource.tokens).sum ≤ maximumU64 := by
  have baseline := estimateTokens_le input.epoch.baselineText
  have texts := sum_tokens_le input.sources
  have room := input.addressable
  unfold maximumU64
  omega

theorem ContextInput.length_bounded (input : ContextInput) : input.sources.length ≤ maximumU64 := by
  have counted (sources : List AgentContextSource) :
      sources.length ≤ (sources.map fun source => source.message.content.utf8ByteSize + 1).sum := by
    induction sources with
    | nil => exact Nat.le_refl _
    | cons source rest ih =>
      simp only [List.length_cons, List.map_cons, List.sum_cons]
      omega
  have here := counted input.sources
  have room := input.addressable
  unfold maximumU64
  omega

abbrev userTokens (sources : List AgentContextSource) : Nat :=
  reserve AgentContextSource.tokens AgentContextSource.isMandatory sources

theorem userTokens_cons (source) (rest) :
    userTokens (source :: rest) = (if source.isMandatory then source.tokens else 0) + userTokens rest :=
  reserve_cons source rest

theorem saturated_sum {sources : List AgentContextSource} {total : Nat}
    (bounded : total + (sources.map AgentContextSource.tokens).sum ≤ maximumU64) :
    sources.foldl (fun total source => saturatingAdd total source.tokens) total =
      total + (sources.map AgentContextSource.tokens).sum := by
  induction sources generalizing total with
  | nil => rfl
  | cons source rest ih =>
    simp only [List.map_cons, List.sum_cons] at bounded
    have added : saturatingAdd total source.tokens = total + source.tokens := by
      unfold saturatingAdd
      omega
    simp only [List.foldl_cons, List.map_cons, List.sum_cons, added]
    rw [ih (by omega)]
    omega

section
variable {sha256 : String → String} {arguments : CompileArguments}

/-! ### The loop -/

abbrev decisions (arguments : CompileArguments) (total : Nat) (sources : List AgentContextSource) :
    List (AgentContextSource × Bool) :=
  select AgentContextSource.tokens AgentContextSource.isMandatory arguments.tokenBudget total sources

theorem decisions_sources (arguments) (total) (sources) :
    (decisions arguments total sources).map Prod.fst = sources :=
  select_items total sources

theorem compileSource_eq {source rest state}
    (index) (fits : state.total + userTokens (source :: rest) ≤ arguments.tokenBudget)
    (remaining : state.mandatoryTokensRemaining = userTokens (source :: rest))
    (bounded : state.total + ((source :: rest).map AgentContextSource.tokens).sum ≤ maximumU64) {taken}
    (decided : taken = (source.isMandatory ||
      decide (state.total + source.tokens + userTokens rest ≤ arguments.tokenBudget))) :
    compileSource sha256 arguments state (source, index) =
      { total := if taken then state.total + source.tokens else state.total,
        mandatoryTokensRemaining := userTokens rest,
        messages := if taken then state.messages ++ [source.message] else state.messages,
        items := state.items ++ [sourceItem sha256 arguments index source taken] } := by
  have later : userTokens rest ≤ (rest.map AgentContextSource.tokens).sum := reserve_le rest
  rw [userTokens_cons] at fits remaining
  rw [List.map_cons, List.sum_cons] at bounded
  have added : checkedAdd state.total source.tokens = some (state.total + source.tokens) := by
    unfold checkedAdd
    rw [if_pos (by omega)]
  have saturated : saturatingAdd state.total source.tokens = state.total + source.tokens := by
    unfold saturatingAdd
    omega
  cases required : source.isMandatory with
  | true =>
    simp only [required, if_true] at fits remaining
    have room : state.total + source.tokens ≤ arguments.tokenBudget := by omega
    simp [compileSource, decided, required, added, saturated, room, remaining]
  | false =>
    simp only [required, Bool.false_eq_true, if_false, Nat.zero_add] at fits remaining
    have reserved : checkedAdd (state.total + source.tokens) (userTokens rest) =
        some (state.total + source.tokens + userTokens rest) := by
      unfold checkedAdd
      rw [if_pos (by omega)]
    simp [compileSource, decided, required, added, saturated, remaining, reserved]

theorem compile_loop (sources) (index) (state)
    (fits : state.total + userTokens sources ≤ arguments.tokenBudget)
    (remaining : state.mandatoryTokensRemaining = userTokens sources)
    (bounded : state.total + (sources.map AgentContextSource.tokens).sum ≤ maximumU64) :
    (sources.zipIdx index).foldl (compileSource sha256 arguments) state =
      { total := state.total + spent AgentContextSource.tokens (decisions arguments state.total sources),
        mandatoryTokensRemaining := 0,
        messages := state.messages ++ ((decisions arguments state.total sources).filter Prod.snd).map (·.1.message),
        items := state.items ++ ((decisions arguments state.total sources).zipIdx index).map
          fun entry => sourceItem sha256 arguments entry.2 entry.1.1 entry.1.2 } := by
  induction sources generalizing index state with
  | nil =>
    obtain ⟨total, left, messages, items⟩ := state
    cases remaining
    simp [select, spent]
  | cons source rest ih =>
    have room := reserve_step fits
    rw [List.zipIdx_cons, List.foldl_cons, compileSource_eq index fits remaining bounded rfl]
    rw [List.map_cons, List.sum_cons] at bounded
    simp only [select]
    generalize (source.isMandatory ||
      decide (state.total + source.tokens + userTokens rest ≤ arguments.tokenBudget)) = taken at room ⊢
    rw [ih (index + 1) _ room rfl (by dsimp only; split <;> omega)]
    simp only [spent_cons, List.zipIdx_cons, List.map_cons, List.append_assoc, List.singleton_append]
    cases taken
    · simp
    · simp [Nat.add_assoc]

theorem ContextInput.mandatory_sum (input : ContextInput) :
    (input.sources.filter AgentContextSource.isMandatory).foldl
      (fun total source => saturatingAdd total source.tokens) 0 = userTokens input.sources := by
  have bounded := input.tokens_bounded
  have part : userTokens input.sources ≤ (input.sources.map AgentContextSource.tokens).sum := reserve_le _
  unfold userTokens reserve at *
  rw [saturated_sum (by omega), Nat.zero_add]

theorem ContextInput.mandatory_unsaturated (input : ContextInput) :
    saturatingAdd (estimateTokens input.epoch.baselineText) (userTokens input.sources) =
      estimateTokens input.epoch.baselineText + userTokens input.sources := by
  have bounded := input.tokens_bounded
  have part : userTokens input.sources ≤ (input.sources.map AgentContextSource.tokens).sum := reserve_le _
  unfold saturatingAdd
  omega

/-! ### Validation -/

theorem validateItem_sourceItem (total index) (source) (included)
    (bounded : total + source.tokens ≤ maximumU64) :
    validateItem total (sourceItem sha256 arguments index source included) = .error .invalidIncludedContent ∨
    validateItem total (sourceItem sha256 arguments index source included) =
      .ok (total + if included then source.tokens else 0) := by
  have saturated : saturatingAdd total source.tokens = total + source.tokens := by
    unfold saturatingAdd
    omega
  cases included with
  | false =>
    right
    simp only [validateItem, sourceItem, Bool.false_eq_true, if_false, false_and]
    rw [ensure_holds (by simp), ok_bind, Nat.add_zero]
    rfl
  | true =>
    simp only [validateItem, sourceItem, if_true, saturated]
    rw [ensure_holds (by cases source.contentArtifactId <;> simp), ok_bind]
    by_cases evident : phaseFiveEvidenceIsValid source.sourceType source.memoryEvidence source.compactionId = true
    · right
      rw [ensure_holds evident, ok_bind]
      rfl
    · left
      rw [ensure_fails evident, error_bind]

variable (sha256 arguments) in
theorem validate_sources (choices : List (AgentContextSource × Bool)) (index total : Nat)
    (bounded : total + (choices.map fun choice => choice.1.tokens).sum ≤ maximumU64) :
    let items := (choices.zipIdx index).map fun entry => sourceItem sha256 arguments entry.2 entry.1.1 entry.1.2
    items.foldlM validateItem total = .error .invalidIncludedContent ∨
      items.foldlM validateItem total = .ok (total + spent AgentContextSource.tokens choices) := by
  induction choices generalizing index total with
  | nil => exact .inr rfl
  | cons choice rest ih =>
    obtain ⟨source, included⟩ := choice
    simp only [List.map_cons, List.sum_cons] at bounded
    simp only [List.zipIdx_cons, List.map_cons, List.foldlM_cons, spent_cons]
    rcases validateItem_sourceItem total index source included (by omega) with failed | counted
    · left
      rw [failed, error_bind]
    · rw [counted, ok_bind, ← Nat.add_assoc]
      apply ih
      split <;> omega

theorem validateItem_baseline (epoch) :
    validateItem 0 (baselineItem arguments epoch) = .ok (estimateTokens epoch.baselineText) := by
  have small : saturatingAdd 0 (estimateTokens epoch.baselineText) = estimateTokens epoch.baselineText := by
    unfold saturatingAdd estimateTokens maximumU64
    omega
  have valid : validateItem 0 (baselineItem arguments epoch) =
      .ok (saturatingAdd 0 (estimateTokens epoch.baselineText)) := rfl
  rw [valid, small]

/-! ### The compiler -/

def compiledWith (sha256 : String → String) (arguments : CompileArguments) (input : ContextInput) (createdAt : Millis) :
    CompiledContext :=
  let choices := decisions arguments (estimateTokens input.epoch.baselineText) input.sources
  let messages := baselineMessage input.epoch :: (choices.filter Prod.snd).map (·.1.message)
  { manifest :=
      { manifestId := arguments.manifestId, runId := arguments.runId, turnId := arguments.turnId,
        epochId := input.epochId, iteration := arguments.iteration, compilerVersion := "mealy.context.v2",
        providerResidency := arguments.providerResidency, tokenBudget := arguments.tokenBudget,
        totalTokenEstimate := estimateTokens input.epoch.baselineText + spent AgentContextSource.tokens choices,
        toolSchemaSetDigest := arguments.toolSchemaSetDigest, policyVersion := arguments.policyVersion,
        projectionDigest := sha256 (projection arguments input.epochId messages).render,
        items := baselineItem arguments input.epoch :: choices.zipIdx.map fun entry =>
          sourceItem sha256 arguments entry.2 entry.1.1 entry.1.2,
        createdAt },
    messages }

def MandatoryFits (arguments : CompileArguments) (input : ContextInput) : Prop :=
  estimateTokens input.epoch.baselineText + userTokens input.sources ≤ arguments.tokenBudget

theorem compileContext_fitting {input createdAt}
    (timed : commitMilliseconds arguments.createdAt = .ok createdAt) (fits : MandatoryFits arguments input) :
    compileContext sha256 arguments input = .error .invalidIncludedContent ∨
      compileContext sha256 arguments input = .ok (compiledWith sha256 arguments input createdAt) := by
  have bounded := input.tokens_bounded
  unfold MandatoryFits at fits
  simp only [compileContext, timed, ok_bind, input.mandatory_sum, input.mandatory_unsaturated]
  rw [ensure_holds (by omega), ok_bind, ensure_holds fits, ok_bind, compile_loop input.sources 0 _ fits rfl bounded]
  have choices_bounded : estimateTokens input.epoch.baselineText +
      ((decisions arguments (estimateTokens input.epoch.baselineText) input.sources).map
        fun choice => choice.1.tokens).sum ≤ maximumU64 := by
    have same := congrArg (List.map AgentContextSource.tokens)
      (decisions_sources arguments (estimateTokens input.epoch.baselineText) input.sources)
    rw [List.map_map] at same
    simpa only [Function.comp_def, ← same] using bounded
  have spending := select_fits fits
  simp only [validateContextManifest, List.singleton_append, List.foldlM_cons, validateItem_baseline, ok_bind]
  rcases validate_sources sha256 arguments _ 0 _ choices_bounded with failed | counted
  · left
    rw [failed]
    rfl
  · right
    rw [counted]
    simp only [ok_bind]
    rw [ensure_holds trivial, ok_bind, ensure_holds spending]
    rfl

theorem compileContext_untimed {input e} (untimed : commitMilliseconds arguments.createdAt = .error e) :
    compileContext sha256 arguments input = .error .invalidCommitTime := by
  have invalid : e = .invalidCommitTime := by
    simp only [commitMilliseconds] at untimed
    by_cases after : 0 ≤ arguments.createdAt
    · rw [ensure_holds after, ok_bind] at untimed
      by_cases small : arguments.createdAt.toNat / 10 ^ 6 ≤ maximumI64
      · rw [ensure_holds small] at untimed
        cases untimed
      · rw [ensure_fails small] at untimed
        exact (Except.error.inj untimed).symm
    · rw [ensure_fails after] at untimed
      exact (Except.error.inj untimed).symm
  rw [compileContext, untimed, error_bind, invalid]

def ContextError.IsBudgetError : ContextError → Prop
  | .baselineExceedsBudget | .mandatoryContextExceedsBudget _ _ => True
  | _ => False

theorem compileContext_unfitting {input createdAt}
    (timed : commitMilliseconds arguments.createdAt = .ok createdAt) (large : ¬ MandatoryFits arguments input) :
    ∃ e, compileContext sha256 arguments input = .error e ∧ e.IsBudgetError := by
  unfold MandatoryFits at large
  simp only [compileContext, timed, ok_bind, input.mandatory_sum, input.mandatory_unsaturated]
  by_cases baseline : estimateTokens input.epoch.baselineText ≤ arguments.tokenBudget
  · rw [ensure_holds baseline, ok_bind, ensure_fails large, error_bind]
    exact ⟨_, rfl, trivial⟩
  · rw [ensure_fails baseline, error_bind]
    exact ⟨_, rfl, trivial⟩

/-! ### The contract -/

def entries (input : ContextInput) (compiled : CompiledContext) : List (AgentContextSource × ContextManifestItem) :=
  input.sources.zip compiled.manifest.items.tail

def includedSources (entries : List (AgentContextSource × ContextManifestItem)) : List AgentContextSource :=
  (entries.filter fun entry => entry.2.disposition = .included).map Prod.fst

def tokensOf (sources : List AgentContextSource) : Nat := (sources.map AgentContextSource.tokens).sum

structure WithinBudget (arguments : CompileArguments) (input : ContextInput) (compiled : CompiledContext) : Prop where
  ordinals : compiled.manifest.items.map ContextManifestItem.ordinal = List.range (input.sources.length + 1)
  described : ∀ entry ∈ entries input compiled, entry.2.sourceType = entry.1.sourceType ∧
    entry.2.sourceLocator = entry.1.sourceLocator ∧ entry.2.tokenEstimate = entry.1.tokens ∧
    (entry.2.disposition = .included ∨ entry.2.disposition = .excluded)
  users : ∀ entry ∈ entries input compiled, entry.1.sourceType = "user" → entry.2.disposition = .included
  total : compiled.manifest.totalTokenEstimate =
    estimateTokens input.epoch.baselineText + tokensOf (includedSources (entries input compiled))
  fits : compiled.manifest.totalTokenEstimate ≤ arguments.tokenBudget
  messages : compiled.messages =
    baselineMessage input.epoch :: (includedSources (entries input compiled)).map AgentContextSource.message
  excluded : ∀ before source item after, entries input compiled = before ++ (source, item) :: after →
    source.sourceType ≠ "user" →
    (item.disposition = .excluded ↔ arguments.tokenBudget <
      estimateTokens input.epoch.baselineText + tokensOf (includedSources before) + source.tokens +
        tokensOf ((after.map Prod.fst).filter fun later => later.sourceType = "user"))

def entryOf (sha256 : String → String) (arguments : CompileArguments) (decision : (AgentContextSource × Bool) × Nat) :
    AgentContextSource × ContextManifestItem :=
  (decision.1.1, sourceItem sha256 arguments decision.2 decision.1.1 decision.1.2)

variable (sha256 arguments) in
theorem entries_compiledWith (input) (createdAt) :
    entries input (compiledWith sha256 arguments input createdAt) =
      (decisions arguments (estimateTokens input.epoch.baselineText) input.sources).zipIdx.map
        (entryOf sha256 arguments) := by
  have zipped (choices : List (AgentContextSource × Bool)) (index : Nat) :
      (choices.map Prod.fst).zip ((choices.zipIdx index).map fun entry =>
        sourceItem sha256 arguments entry.2 entry.1.1 entry.1.2) =
      (choices.zipIdx index).map (entryOf sha256 arguments) := by
    induction choices generalizing index with
    | nil => rfl
    | cons choice rest ih =>
      simp only [List.map_cons, List.zipIdx_cons, List.zip_cons_cons, ih]
      rfl
  have same := zipped (decisions arguments (estimateTokens input.epoch.baselineText) input.sources) 0
  rwa [decisions_sources] at same

theorem includedSources_entries (numbered : List ((AgentContextSource × Bool) × Nat)) :
    includedSources (numbered.map (entryOf sha256 arguments)) =
      ((numbered.map Prod.fst).filter Prod.snd).map Prod.fst := by
  unfold includedSources
  induction numbered with
  | nil => rfl
  | cons decision rest ih =>
    obtain ⟨⟨source, taken⟩, index⟩ := decision
    cases taken <;> simp_all [entryOf, sourceItem]

theorem spent_eq (choices) :
    spent AgentContextSource.tokens choices = tokensOf ((choices.filter Prod.snd).map Prod.fst) := by
  simp [spent, tokensOf, Function.comp_def]

theorem excluded_iff {total sources before after source item}
    (placed : (decisions arguments total sources).zipIdx.map (entryOf sha256 arguments) =
      before ++ (source, item) :: after) (other : source.sourceType ≠ "user") :
    item.disposition = .excluded ↔ arguments.tokenBudget < total + tokensOf (includedSources before) + source.tokens +
      tokensOf ((after.map Prod.fst).filter fun later => later.sourceType = "user") := by
  obtain ⟨first, second, numbered, rfl, mapped⟩ := List.map_eq_append_iff.mp placed
  obtain ⟨⟨⟨source', taken⟩, index⟩, later, rfl, here, rfl⟩ := List.map_eq_cons_iff.mp mapped
  obtain ⟨rfl, rfl⟩ := Prod.mk.inj here
  have listed := congrArg (List.map Prod.fst) numbered
  rw [List.zipIdx_map_fst, List.map_append, List.map_cons] at listed
  have all := decisions_sources arguments total sources
  rw [listed, List.map_append, List.map_cons] at all
  obtain ⟨choices, decided, rest, split, front, back, iff⟩ : ∃ choices decided rest,
      decisions arguments total ((first.map Prod.fst).map Prod.fst ++ source' :: (later.map Prod.fst).map Prod.fst) =
        choices ++ (source', decided) :: rest ∧ _ := select_split ..
  rw [all, listed] at split
  have length : (first.map Prod.fst).length = choices.length := by
    rw [← List.length_map Prod.fst, ← front, List.length_map]
  obtain ⟨rfl, tail⟩ := List.append_inj split length
  obtain ⟨same, rfl⟩ := List.cons.inj tail
  obtain rfl : taken = decided := congrArg Prod.snd same
  have unforced : source'.isMandatory = false := by simp [AgentContextSource.isMandatory, other]
  have behind : (List.map (entryOf sha256 arguments) later).map Prod.fst = (later.map Prod.fst).map Prod.fst := by
    simp [entryOf, Function.comp_def]
  have dropped : (sourceItem sha256 arguments index source' taken).disposition = .excluded ↔ ¬ taken = true := by
    cases taken <;> simp [sourceItem]
  rw [dropped, iff, unforced, includedSources_entries, ← spent_eq, behind]
  simp only [Bool.false_eq_true, false_or, Nat.not_le]
  rfl

theorem compiledWith_within {input} (createdAt : Millis) (fits : MandatoryFits arguments input) :
    WithinBudget arguments input (compiledWith sha256 arguments input createdAt) := by
  have entries_eq := entries_compiledWith sha256 arguments input createdAt
  have included : includedSources (entries input (compiledWith sha256 arguments input createdAt)) =
      ((decisions arguments (estimateTokens input.epoch.baselineText) input.sources).filter Prod.snd).map Prod.fst := by
    rw [entries_eq, includedSources_entries, List.zipIdx_map_fst]
  refine { ordinals := ?_, described := ?_, users := ?_, total := ?_, fits := ?_, messages := ?_, excluded := ?_ }
  · have length := input.length_bounded
    have counted : (decisions arguments (estimateTokens input.epoch.baselineText) input.sources).length =
        input.sources.length := select_length _ _
    rw [compiledWith, ← counted]
    rw [← counted] at length
    simp only [List.map_cons, List.map_map, List.range_succ_eq_map, baselineItem]
    congr 1
    rw [List.range_eq_range', ← List.zipIdx_map_snd, List.map_map]
    apply List.map_congr_left
    intro decision listed
    have bound := List.snd_lt_of_mem_zipIdx listed
    simp only [Function.comp_apply, sourceItem, saturatingAdd]
    omega
  · intro entry member
    rw [entries_eq] at member
    obtain ⟨⟨⟨source, taken⟩, index⟩, _, rfl⟩ := List.mem_map.mp member
    cases taken <;> simp [entryOf, sourceItem]
  · intro entry member user
    rw [entries_eq] at member
    obtain ⟨⟨⟨source, taken⟩, index⟩, listed, rfl⟩ := List.mem_map.mp member
    have chosen := List.fst_mem_of_mem_zipIdx listed
    have required : taken = true := select_mandatory chosen (by simpa [AgentContextSource.isMandatory, entryOf] using user)
    simp [entryOf, sourceItem, required]
  · rw [included, ← spent_eq]
    rfl
  · exact select_fits fits
  · rw [included, List.map_map]
    rfl
  · intro before source item after placed other
    rw [entries_eq] at placed
    exact excluded_iff placed other

structure Compiles (sha256 : String → String) (arguments : CompileArguments) (input : ContextInput) : Prop where
  compiled : ∀ compiled, compileContext sha256 arguments input = .ok compiled → WithinBudget arguments input compiled
  budgetError : (∃ e, compileContext sha256 arguments input = .error e ∧ e.IsBudgetError) ↔
    (∃ createdAt, commitMilliseconds arguments.createdAt = .ok createdAt) ∧ ¬ MandatoryFits arguments input
  otherErrors : ∀ e, compileContext sha256 arguments input = .error e →
    (∀ actual maximum, e ≠ .tokenBudgetExceeded actual maximum) ∧
    (∀ declared actual, e ≠ .tokenEstimateMismatch declared actual) ∧ e ≠ .withheldContentPresent

theorem compiles_of_error {input e} (failed : compileContext sha256 arguments input = .error e)
    (budget : e.IsBudgetError ↔
      (∃ createdAt, commitMilliseconds arguments.createdAt = .ok createdAt) ∧ ¬ MandatoryFits arguments input)
    (known : e.IsBudgetError ∨ e = .invalidCommitTime ∨ e = .invalidIncludedContent) :
    Compiles sha256 arguments input := by
  refine ⟨fun compiled ok => ?_, ?_, fun e' failed' => ?_⟩
  · rw [failed] at ok
    cases ok
  · rw [← budget, failed]
    simp
  · rw [failed] at failed'
    cases failed'
    rcases known with exceeded | rfl | rfl
    · cases e <;> simp_all [ContextError.IsBudgetError]
    · simp
    · simp

/-- A compiled context holds every user source and, in order, every other source that fits
beside what was accepted before it and the user sources behind it. A budget error says, at
a commit time that can be stored, that the baseline and the user sources do not fit. -/
theorem context_within_budget (sha256 : String → String) (arguments : CompileArguments) (input : ContextInput) :
    Compiles sha256 arguments input := by
  cases timed : commitMilliseconds arguments.createdAt with
  | error e =>
    apply compiles_of_error (compileContext_untimed timed) _ (.inr (.inl rfl))
    simp [ContextError.IsBudgetError, timed]
  | ok createdAt =>
    by_cases fits : MandatoryFits arguments input
    · have outcome : compileContext sha256 arguments input = _ ∨ compileContext sha256 arguments input = _ :=
        compileContext_fitting timed fits
      rcases outcome with failed | done
      · apply compiles_of_error failed _ (.inr (.inr rfl))
        simp [ContextError.IsBudgetError, fits]
      · refine ⟨fun compiled ok => ?_, by simp [done, fits], by simp [done]⟩
        cases done.symm.trans ok
        exact compiledWith_within createdAt fits
    · obtain ⟨e, failed, budget⟩ : ∃ e, compileContext sha256 arguments input = .error e ∧ e.IsBudgetError :=
        compileContext_unfitting timed fits
      apply compiles_of_error failed _ (.inl budget)
      simp [budget, timed, fits]

end

/-! ### A clock before 1970 -/

def sampleEpoch : ContextEpoch :=
  { sessionId := ⟨1⟩, epochNumber := 1,
    identity :=
      { baselineVersion := "v1", baselineDigest := "", configDigest := "", policyDigest := "", workspaceIdentity := "" },
    baselineText := "baseline", createdAt := 0, retiredAt := none }

def sampleInput : ContextInput where
  epochId := ⟨1⟩
  epoch := sampleEpoch
  sources := []
  addressable := by decide

def earlyArguments : CompileArguments :=
  { itemIds := fun n => ⟨n⟩, manifestId := ⟨1⟩, runId := ⟨1⟩, turnId := ⟨1⟩, iteration := 1, tokenBudget := 1,
    providerResidency := "local", toolSchemaSetDigest := "", policyVersion := "v1", createdAt := -1 }

/-- The commit time is checked before the budget: a context that does not fit is reported
as an invalid time. -/
theorem early_context_hides_its_budget :
    ¬ MandatoryFits earlyArguments sampleInput ∧
    compileContext id earlyArguments sampleInput = .error .invalidCommitTime := by
  constructor
  · unfold MandatoryFits
    decide
  · rfl

end Mealy.Context
