/-
Hosts without a name.

A text or a list of hosts that is empty as a whole counts as not given, and so does an empty host
that is given alone. But a list is not looked into: what counts as empty is told before it is cut
into entries, and an entry may be empty, or hold nothing in front of its port. Such an entry is a
host like any other, and its target is a TCP endpoint without a host name.

The main statement says when that happens: a resolution has such a target exactly when the source
that names its hosts lists one without a name. A host that is given alone never does, and neither do
the hosts of the platform.
-/
import SessionPlan.Proofs.HostEntries

set_option autoImplicit false

namespace SessionPlan

/-! ## Sources -/

namespace HostSource

/-- A source lists a host without a name: an entry of a text is empty up to its first colon. -/
def ListsEmptyHost : HostSource → Prop
  | arguments hosts => "" ∈ hosts
  | authority text | query text | environment text =>
    ∃ entry ∈ HostList.entries text, entry = [] ∨ entry.head? = some ':'
  | platform => False

/-- Nothing stands in front of the first colon of an entry that is empty or begins with it. -/
theorem cutOff_fst_eq_nil_iff {sep : Char} {entry : List Char} :
    (Text.cutOff sep entry).1 = [] ↔ entry = [] ∨ entry.head? = some sep := by
  cases entry with
  | nil => simp [Text.cutOff, Text.cutAtFirst]
  | cons c rest =>
    by_cases hc : c = sep
    · simp [Text.cutOff, Text.cutAtFirst, hc]
    · cases hrest : Text.cutAtFirst sep rest with
      | none => simp [Text.cutOff, Text.cutAtFirst, hc, hrest]
      | some parts => simp [Text.cutOff, Text.cutAtFirst, hc, hrest]

theorem empty_mem_names_iff (source : HostSource) (platform : Platform) :
    "" ∈ source.names platform ↔ source.ListsEmptyHost := by
  cases source with
  | arguments hosts => rfl
  | platform =>
    have hnamed : "" ∉ defaultHosts platform := by
      cases platform with
      | windows => decide
      | unix => decide
    exact iff_of_false hnamed not_false
  | authority text | query text | environment text =>
    show "" ∈ HostList.names text ↔ _
    simp only [HostList.names, List.mem_map, String.ofList_eq_empty_iff, cutOff_fst_eq_nil_iff]
    rfl

/-- A host that is given alone has a name, or it is not given. -/
theorem not_listsEmptyHost_of_single {args : Arguments} {dsn : Dsn} {env : Environment}
    {host : String} (h : args.host = some (.single host)) (hne : host ≠ "") :
    ¬ (of args dsn env).ListsEmptyHost := by
  have hgiven : args.host.bind HostSpec.nonEmpty? = some (.single host) := by
    rw [h, Option.bind_some, HostSpec.nonEmpty?, HostSpec.isEmpty, if_neg (by simpa using hne)]
  have hsource : of args dsn env = arguments [host] := by
    rw [of, hgiven]
    rfl
  rw [hsource]
  intro hmem
  exact hne (List.mem_singleton.mp hmem).symm

end HostSource

/-! ## Targets -/

theorem Target.ofHost_eq_tcp_iff {host name : String} {port port' : UInt16} :
    ofHost host port = .tcp name port' ↔
      host.toList.head? ≠ some '/' ∧ host = name ∧ port = port' := by
  rw [ofHost]
  by_cases hslash : host.toList.head? = some '/'
  · rw [if_pos hslash]
    split <;> simp [hslash]
  · rw [if_neg hslash]
    simp [hslash]

/-- A target without a host name is that of a host without a name, whatever its port is. -/
theorem Resolution.exists_tcp_empty_iff {addresses : Addresses}
    (hlen : addresses.ports.length = addresses.hosts.length) :
    (∃ port, Target.tcp "" port ∈ targetsOf addresses) ↔ "" ∈ addresses.hosts := by
  constructor
  · rintro ⟨port, hmem⟩
    obtain ⟨⟨host, port'⟩, hpair, htarget⟩ := List.mem_map.mp hmem
    obtain ⟨-, rfl, -⟩ := Target.ofHost_eq_tcp_iff.mp htarget
    exact (List.of_mem_zip hpair).1
  · intro hmem
    -- every host stands beside a port, so this one does
    rw [← List.map_fst_zip (Nat.le_of_eq hlen.symm)] at hmem
    obtain ⟨⟨host, port⟩, hpair, rfl⟩ := List.mem_map.mp hmem
    exact ⟨port, List.mem_map.mpr ⟨_, hpair, rfl⟩⟩

/-- **Where hosts have names.** Every TCP target of a resolution has a host name exactly when the
source that names the hosts lists none without a name. A host that is given alone is never without
one. -/
theorem tcp_hosts_named_iff {args : Arguments} {env : Environment} {r : Resolution}
    (h : resolve args env = .ok r) :
    ∃ dsn, Resolution.readDsn args = .ok dsn ∧
      ((∀ host port, Target.tcp host port ∈ r.targets → host ≠ "") ↔
        ¬ (HostSource.of args dsn env).ListsEmptyHost) ∧
      ∀ host, args.host = some (.single host) → host ≠ "" →
        ¬ (HostSource.of args dsn env).ListsEmptyHost := by
  obtain ⟨dsn, addresses, credentials, hdsn, haddresses, -, rfl⟩ := Resolution.stages_of_resolve h
  refine ⟨dsn, hdsn, ?_, fun host hhost hne => HostSource.not_listsEmptyHost_of_single hhost hne⟩
  have hempty := Resolution.exists_tcp_empty_iff (Addresses.shape_of_resolve haddresses).2
  rw [Addresses.hosts_of_resolve haddresses, HostSource.empty_mem_names_iff] at hempty
  -- both sides say that no target is one without a host name
  rw [← hempty]
  constructor
  · rintro hnamed ⟨port, hmem⟩
    exact hnamed "" port hmem rfl
  · rintro hnone host port hmem rfl
    exact hnone ⟨port, hmem⟩

/-- Two hosts with names, one of them with a port; the variable is not asked. -/
theorem tcp_hosts_named_iff_of_two_hosts :
    let env : Environment :=
      ⟨fun name => if name = "EDGEDB_HOST" then some ",:1" else none, some "me", .unix⟩
    let args : Arguments := { dsn := some "edgedb://a:7,b/app" }
    ∃ r, resolve args env = .ok r ∧ r.targets = [.tcp "a" 7, .tcp "b" 5656] ∧
      ∃ dsn, Resolution.readDsn args = .ok dsn ∧
        ¬ (HostSource.of args dsn env).ListsEmptyHost := by
  intro env args
  have hresolve : (resolve args env).map (·.targets) = .ok [.tcp "a" 7, .tcp "b" 5656] := by rfl
  obtain ⟨r, hr, htargets⟩ := map_eq_ok_iff.mp hresolve
  obtain ⟨dsn, hdsn, hiff, -⟩ := tcp_hosts_named_iff hr
  refine ⟨r, hr, htargets, dsn, hdsn, hiff.mp ?_⟩
  rw [htargets]
  rintro host port hmem rfl
  simp at hmem

/-- A port alone is a host list with one host, which has no name; the environment, which names one,
is not asked. -/
theorem port_alone_has_no_host_name :
    ¬ ∀ (args : Arguments) (env : Environment) (r : Resolution), resolve args env = .ok r →
      ∀ host port, Target.tcp host port ∈ r.targets → host ≠ "" := by
  let env : Environment :=
    ⟨fun name => if name = "EDGEDB_HOST" then some "h" else none, none, .unix⟩
  intro h
  have hresolve : (resolve { dsn := some "edgedb://me:pw@:5656/app" } env).map (·.targets)
      = .ok [.tcp "" 5656] := by rfl
  obtain ⟨r, hr, htargets⟩ := map_eq_ok_iff.mp hresolve
  exact h _ env r hr "" 5656 (htargets ▸ List.mem_singleton.mpr rfl) rfl

end SessionPlan
