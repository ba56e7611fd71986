import SchemaRegistry.Json.Decode
import SchemaRegistry.Settings.Basic
import SchemaRegistry.Settings.Tree

/-!
Reading settings from three kinds of source: a JSON text, a JSON value, and a settings tree.  Each
section is described once, and a setting that is absent keeps its default.
-/

namespace SchemaRegistry

structure SettingReader (α : Type) where
  json : Json.Reader α
  value : Json.Decoder α
  tree : Tree → Option α

structure Setting (σ : Type) where
  name : String
  reader : SettingReader (σ → σ)

namespace SettingReader

def bool : SettingReader Bool := ⟨Json.readBool, Json.Value.decodeBool, Tree.bool?⟩

def text (expected : String) : SettingReader String :=
  ⟨Json.readString expected, Json.Value.decodeString expected, Tree.text?⟩

def natural (kind : Json.IntegerKind) (bits : Nat) : SettingReader Nat where
  json s := do
    let (i, s) ← Json.readInteger kind s
    return (i.toNat, s)
  value v := do return (← Json.Value.decodeInteger kind v).toNat
  tree t := t.natural?.filter (· < twoTo bits)

def option {α : Type} (r : SettingReader α) : SettingReader (Option α) where
  json := Json.readOption r.json
  value := Json.Value.decodeOption r.value
  tree
    | .nil => some none
    | t => (r.tree t).map some

def list {α : Type} (r : SettingReader α) : SettingReader (List α) :=
  ⟨Json.readList r.json, Json.Value.decodeList r.value, fun t => do (← t.items?).mapM r.tree⟩

/-- In trees the case of a level's name does not matter. -/
def level : SettingReader Level where
  json := Level.read
  value := Json.Value.decodeVariant Level.named
  tree t := do
    let name ← t.variant?
    Level.all.find? fun l => Text.lower l.name = Text.lower name

def members {σ : Type} (settings : List (Setting σ)) : σ → List (String × Tree) → Option σ
  | acc, [] => some acc
  | acc, (name, t) :: rest =>
    match settings.find? (·.name = name) with
    | none => members settings acc rest
    | some s => do members settings ((← s.reader.tree t) acc) rest

def items {σ : Type} : List (Setting σ) → σ → List Tree → Option σ
  | s :: ss, acc, t :: ts => do items ss ((← s.reader.tree t) acc) ts
  | _, acc, _ => some acc

def ofSection {σ : Type} (name : String) (settings : List (Setting σ)) (start : σ) :
    SettingReader σ where
  json := Json.Layout.read
    ⟨name, settings.map fun s => ⟨s.name, s.reader.json⟩, start, false⟩
  value := Json.Value.decodeRecord name (settings.map fun s => ⟨s.name, s.reader.value⟩) start
  tree
    | .table ms => members settings start ms
    | .list ts => items settings start ts
    | _ => none

end SettingReader

def Setting.of {σ α : Type} (name : String) (reader : SettingReader α) (set : α → σ → σ) :
    Setting σ where
  name := name
  reader :=
    { json := fun s => do
        let (a, s) ← reader.json s
        return (set a, s)
      value := fun v => do return set (← reader.value v)
      tree := fun t => (reader.tree t).map set }

namespace Settings

open SettingReader

def string : SettingReader String := text "a string"

def milliseconds : SettingReader Nat := natural .u64 64

def tenancyReader : SettingReader TenancySettings := ofSection "TenancyConfig" [
  .of "multi_tenant" bool fun a r => { r with multiTenant := a },
  .of "default_tenant" string fun a r => { r with defaultTenant := a }] default

def logReader : SettingReader LogSettings := ofSection "LogConfig" [
  .of "endpoints" (list string) fun a r => { r with endpoints := a },
  .of "poll_interval_ms" milliseconds fun a r => { r with pollInterval := a },
  .of "fetch_batch" (natural .usize 64) fun a r => { r with fetchBatch := a },
  .of "sync_on_write" bool fun a r => { r with syncOnWrite := a }] default

def backendReader : SettingReader BackendSettings := ofSection "BackendConfig" [
  .of "path" (option (text "path string")) fun a r => { r with path := a },
  .of "connect_attempts" (natural .u32 32) fun a r => { r with connectAttempts := a },
  .of "retry_delay_ms" milliseconds fun a r => { r with retryDelay := a }] default

def authReader : SettingReader AuthSettings := ofSection "AuthConfig" [
  .of "vault_address" (option string) fun a r => { r with vaultAddress := a },
  .of "vault_token" (option string) fun a r => { r with vaultToken := a },
  .of "vault_mount" string fun a r => { r with vaultMount := a },
  .of "timeout_ms" milliseconds fun a r => { r with timeout := a }] default

def compatibilityReader : SettingReader CompatibilitySettings := ofSection "CompatibilityDefaults" [
  .of "default_level" level fun a r => { r with defaultLevel := a }] default

def reader : SettingReader Settings := ofSection "RegistryConfig" [
  .of "tenancy" tenancyReader fun a r => { r with tenancy := a },
  .of "log" logReader fun a r => { r with log := a },
  .of "backend" backendReader fun a r => { r with backend := a },
  .of "auth" authReader fun a r => { r with auth := a },
  .of "compatibility" compatibilityReader fun a r => { r with compatibility := a }] default

end Settings

end SchemaRegistry
