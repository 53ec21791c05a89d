import RequirePath.Config.Load
import RequirePath.Proofs.Config
import RequirePath.Proofs.File.Actions

/-! The loading of a configuration. It changes nothing on the machine but the log, and what it gives is made from
settings. -/

namespace RequirePath.Config

open RequirePath.Action

variable {R : Host → Host → Prop} {c : Config} {h h' : Host} {root file : Option String} {overrides : Settings}

theorem within_ignore (hf : Host.Frame R) (message : String) : Within R (ignore message) :=
  within_bind hf (within_log hf _ _ _) fun _ => within_pure hf _

theorem within_readSettings (hf : Host.Frame R) (path : LexicalPath) : Within R (readSettings path) := by
  refine within_bind hf (within_probe hf _ _) fun there => within_ite (within_pure hf _) ?_
  refine within_bind hf (within_look hf _) fun result => ?_
  cases result with
  | error e => exact within_ignore hf _
  | ok bytes =>
      dsimp only
      cases Yaml.Document.read (.ofBytes bytes) with
      | error fault =>
          dsimp only
          cases failureOf fault with
          | some e => exact within_fail hf e
          | none => exact within_ignore hf _
      | ok document =>
          refine within_ite (within_pure hf _) ?_
          rcases ofSection document with e | settings | settings
          · exact within_fail hf e
          · exact within_ignore hf _
          · exact within_pure hf _

theorem within_load (hf : Host.Frame R) (root file : Option String) (overrides : Settings) :
    Within R (load root file overrides) :=
  within_bind hf (within_look hf _) fun _ => within_bind hf (within_readSettings hf _) fun _ => within_lookOrFail hf _

/-- A configuration that is loaded is made from settings. -/
theorem load_ok (ha : load root file overrides h = (.ok c, h')) :
    ∃ workingDirectory settings, ofSettings workingDirectory settings = .ok c := by
  unfold load at ha
  obtain ⟨path, h₁, -, ha⟩ := of_bind_ok ha
  obtain ⟨settings, h₂, -, ha⟩ := of_bind_ok ha
  have hmade := congrArg Prod.fst ha
  dsimp only [lookOrFail] at hmade
  cases hsettings : ofSettings h₂.workingPath (layers root overrides (ofEnvironment h₂.environment) settings) with
  | ok made =>
      rw [hsettings] at hmade
      cases hmade
      exact ⟨_, _, hsettings⟩
  | error e =>
      rw [hsettings] at hmade
      cases hmade

end RequirePath.Config
