/-
CloudflareIpSync/Resubmission.lean

The round trip of the options: what the options flow has stored is what its form
shows next time, and a form that is submitted as it is shown stores it again.

Numbers come back as they were, since an integer survives being shown as a
float.  The hostname was put in lower case and stripped when it was stored, and
doing that again changes nothing (`lower_stripChars`).  Only the zone is looked
for anew, and it is the same among the same zones (`options_resubmitted`).
-/
import CloudflareIpSync.ConfigEntries
import CloudflareIpSync.FlowInvariant

namespace CloudflareIpSync.Flow

open Interact Python Client Client.CloudflareClient

/-! ### What a form shows -/

/-- The field of a key. -/
def fieldOf (fields : List Field) (key : String) : Option Field :=
  fields.find? fun field => field.key = key

/-- An input that leaves the fields as they are shown.  An empty text may be left
out. -/
structure Unchanged (fields : List Field) (input : OptionsInput) : Prop where
  maxRetries : (fieldOf fields confMaxRetries).bind (·.default) = some input.maxRetries
  reconcileInterval :
    (fieldOf fields confReconcileInterval).bind (·.default) = some input.reconcileInterval
  dnsRecordName : (fieldOf fields confDnsRecordName).bind (·.suggestedValue) =
    some (input.dnsRecordName.getD "")

variable {render : Json → String} {token : String} {current options : Options}
  {input again : OptionsInput} {t : List HttpEv}

/-- Normalizing a hostname that was normalized changes nothing. -/
theorem recordName_again (hshown : again.dnsRecordName.getD "" = input.recordName) :
    again.recordName = input.recordName := by
  rw [OptionsInput.recordName, hshown, OptionsInput.recordName]
  exact lower_stripChars (by simp) _

/-- What an unchanged form submits, of options that a submission stored. -/
theorem again_of_stored (hunchanged : Unchanged (optionsFields options) again)
    (hretries : options.maxRetries = some (pyInt input.maxRetries))
    (hinterval : options.reconcileInterval = some (pyInt input.reconcileInterval))
    (hname : options.dnsRecordName.getD "" = input.recordName) :
    again.maxRetries = pyInt input.maxRetries ∧
      again.reconcileInterval = pyInt input.reconcileInterval ∧
      again.recordName = input.recordName := by
  obtain ⟨hshownRetries, hshownInterval, hshownName⟩ := hunchanged
  refine ⟨?_, ?_, ?_⟩
  · have hdefault : some ((options.maxRetries.map (↑)).getD defaultMaxRetries) =
        some again.maxRetries := hshownRetries
    rw [hretries] at hdefault
    exact (Option.some.inj hdefault).symm
  · have hdefault : some ((options.reconcileInterval.map (↑)).getD defaultReconcileInterval) =
        some again.reconcileInterval := hshownInterval
    rw [hinterval] at hdefault
    exact (Option.some.inj hdefault).symm
  · have hsuggested : some (options.dnsRecordName.getD "") =
        some (again.dnsRecordName.getD "") := hshownName
    rw [hname] at hsuggested
    exact recordName_again (Option.some.inj hsuggested).symm

/-! ### The round trip -/

/-- What was stored of an input. -/
theorem stored_of_created
    (h : Runs render (asyncStepInit token current (some input)) t (.ok (.createEntry options))) :
    options.maxRetries = some (pyInt input.maxRetries) ∧
      options.reconcileInterval = some (pyInt input.reconcileInterval) ∧
      options.dnsRecordName.getD "" = input.recordName := by
  rcases (created_iff h).mp rfl with ⟨hempty, rfl⟩ | ⟨-, -, zone, -, -, rfl⟩
  · exact ⟨rfl, rfl, hempty.symm⟩
  · exact ⟨rfl, rfl, rfl⟩

/-- A number that a selector let through is let through as an integer. -/
theorem numberSelector_pyInt (min max : ℤ) {value : ℚ} (hmin : 0 ≤ min)
    (h : (numberSelector min max value).isSome) :
    (numberSelector min max (pyInt value)).isSome := by
  obtain ⟨hlow, hhigh⟩ := pyInt_bounds min max hmin h
  rw [numberSelector, if_pos ⟨by exact_mod_cast hlow, by exact_mod_cast hhigh⟩]
  rfl

/-- **Round trip.** The form of stored options, submitted as it is shown, is let
through.  It stores the same options again, at most with another zone; without a
hostname it asks nothing, and among the same zones the zone is the same. -/
theorem options_resubmitted (haccepts : (Form.init []).Accepts (.options input))
    (h : Runs render (asyncStepInit token current (some input)) t (.ok (.createEntry options)))
    (hunchanged : Unchanged (optionsFields options) again) :
    (Form.init []).Accepts (.options again) ∧
      ∀ render' token' t' r, Runs render' (asyncStepInit token' options (some again)) t' r →
        (options.dnsRecordName = none → t' = [] ∧ r = .ok (.createEntry options)) ∧
        (∀ options', r = .ok (.createEntry options') → ∃ zoneId zoneName,
          options' = { options with dnsZoneId := zoneId, dnsZoneName := zoneName }) ∧
        ∀ zones, (apiClient render token).AsyncGetZones t (.ok zones) →
          (apiClient render' token').AsyncGetZones t' (.ok zones) →
          r = .ok (.createEntry options) := by
  obtain ⟨hretries, hinterval, hname⟩ := stored_of_created h
  obtain ⟨hretries', hinterval', hname'⟩ := again_of_stored hunchanged hretries hinterval hname
  have hoptions : again.options = input.options := by
    rw [OptionsInput.options, hretries', hinterval', pyInt_intCast, pyInt_intCast]
    rfl
  have hin : ∀ zone, again.optionsIn zone = input.optionsIn zone := by
    intro zone
    rw [OptionsInput.optionsIn, hoptions, hname']
    rfl
  refine ⟨?_, ?_⟩
  · show (numberSelector 0 10 again.maxRetries).isSome ∧
      (numberSelector 1 1440 again.reconcileInterval).isSome
    rw [hretries', hinterval']
    have hretries : (numberSelector (0 : ℤ) (10 : ℤ) input.maxRetries).isSome := by
      exact_mod_cast haccepts.1
    have hinterval : (numberSelector (1 : ℤ) (1440 : ℤ) input.reconcileInterval).isSome := by
      exact_mod_cast haccepts.2
    exact_mod_cast And.intro (numberSelector_pyInt 0 10 le_rfl hretries)
      (numberSelector_pyInt 1 1440 zero_le_one hinterval)
  intro render' token' t' r h'
  rcases (created_iff h).mp rfl with ⟨hempty, rfl⟩ | ⟨hne, zones, zone, hget, hfind, rfl⟩
  · -- no hostname
    obtain ⟨rfl, rfl⟩ := (runs_stepInit_empty (hname'.trans hempty)).mp h'
    rw [hoptions]
    refine ⟨fun _ => ⟨rfl, rfl⟩, ?_, fun _ _ _ => rfl⟩
    intro options' hcreated
    cases hcreated
    exact ⟨_, _, rfl⟩
  · -- a hostname, and the zone that it was stored with
    rw [← hname'] at hne hfind
    refine ⟨by rintro ⟨⟩, ?_, ?_⟩
    · intro options' hcreated
      rcases (created_iff h').mp hcreated with ⟨hempty, -⟩ | ⟨-, -, zone', -, -, rfl⟩
      · exact absurd hempty hne
      · rw [hin]
        exact ⟨_, _, rfl⟩
    · intro zones' hzones hzones'
      obtain rfl := Except.ok.inj (hget.unique zonesBody_eq hzones)
      rw [← hin]
      exact (created_iff h').mpr (.inr ⟨hne, zones, zone, hzones', hfind, rfl⟩)

/-- A hostname in capitals, with a dot at its end. -/
theorem options_resubmitted_vpn :
    let input : OptionsInput := ⟨7 / 2, 15, some " VPN.Example.COM. "⟩
    let options : Options := ⟨some 3, some 15, some "vpn.example.com", some "z", some "example.com"⟩
    let again : OptionsInput := ⟨3, 15, some "vpn.example.com"⟩
    let render : Json → String := fun _ => "0.5"
    ∃ t, Runs render (asyncStepInit "token" {} (some input)) t (.ok (.createEntry options)) ∧
      Runs render (asyncStepInit "token" options (some again)) t (.ok (.createEntry options)) := by
  intro input options again render
  let zone : CloudflareZone := ⟨"z", "example.com"⟩
  have hname : input.recordName = "vpn.example.com" := by decide +kernel
  have hname' : again.recordName = "vpn.example.com" := by decide +kernel
  have hfind : findZone [zone] "vpn.example.com" = some zone := by
    rw [findZone, List.filter_cons_of_pos (by decide)]
    rfl
  -- one page with the zone
  let client := apiClient render "token"
  let answer := pageAnswer [.obj [("id", .str "z"), ("name", .str "example.com")]] []
  have hget : client.AsyncGetZones [⟨zonesRequest client 1, answer⟩] (.ok [zone]) :=
    .returned ((traces_single zonesBody_eq).mpr ⟨answer, rfl, rfl⟩)
  have hrun : ∀ current {input}, input.recordName = "vpn.example.com" →
      Runs render (asyncStepInit "token" current (some input)) [⟨zonesRequest client 1, answer⟩]
        (.ok (.createEntry (input.optionsIn zone))) := by
    intro current input hname
    have hne : input.recordName ≠ "" := by
      rw [hname]
      decide
    rw [← hname] at hfind
    exact (runs_stepInit_iff hne).mpr ⟨_, runs_findZone_ok_iff.mpr ⟨_, hget, hfind⟩, rfl⟩
  have hstored : input.optionsIn zone = options := by decide +kernel
  have hfirst := hrun {} hname
  rw [hstored] at hfirst
  have haccepts : (Form.init []).Accepts (.options input) := by
    constructor
    · decide +kernel
    · decide +kernel
  have hunchanged : Unchanged (optionsFields options) again := ⟨rfl, rfl, rfl⟩
  have hround := (options_resubmitted haccepts hfirst hunchanged).2 _ _ _ _ (hrun options hname')
  have hsame := hround.2.2 [zone] hget hget
  have hsecond := hrun options hname'
  rw [hsame] at hsecond
  exact ⟨_, hfirst, hsecond⟩

end CloudflareIpSync.Flow
