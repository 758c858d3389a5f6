/-
When two targets are the same.

A socket target is a path, and paths are compared by their components. The components of a path
with another one behind it are those of both, so the file of a socket adds one component to those of
its directory, whether a slash has to be put between the two or not. That component holds the port
in decimal digits, and so neither the directory nor the port is lost.

A path that names a socket file is kept, and that of a socket target always names one. So a target
made of the path of a target is that target again, for any port.
-/
import SessionPlan.Proofs.Feedback
import SessionPlan.Proofs.PortText

set_option autoImplicit false

namespace SessionPlan

namespace Target

/-! ## Components -/

/-- The components of two paths with a slash between them are those of both. -/
theorem components_append_slash (before after : List Char) :
    components (before ++ '/' :: after) = components before ++ components after := by
  rw [components, List.splitOn_append_cons_self, List.filter_append]
  rfl

/-- A text without a slash is one component, unless it is empty or a single point. -/
theorem components_of_no_slash {part : List Char} (hslash : '/' ∉ part) (hne : part ≠ [])
    (hpoint : part ≠ ['.']) : components part = [part] := by
  rw [components, List.splitOn_eq_singleton hslash, List.filter_cons_of_pos (by simp [hne, hpoint]),
    List.filter_nil]

/-- A slash at the end makes no difference. -/
theorem components_append_slash_nil (path : List Char) :
    components (path ++ ['/']) = components path := by
  rw [components_append_slash]
  exact List.append_nil _

/-! ## Socket files -/

/-- The name of the socket file for a port. -/
def socketName (port : UInt16) : List Char := socketMarker.toList ++ portDigits port

variable {directory : List Char} {port port' : UInt16}

/-- Different ports have different digits. -/
theorem portDigits_inj : portDigits port = portDigits port' ↔ port = port' := by
  constructor
  · intro h
    have hread := portOfDigits?_portDigits port
    rw [h, portOfDigits?_portDigits port'] at hread
    exact (Option.some.inj hread).symm
  · exact congrArg portDigits

theorem socketName_inj : socketName port = socketName port' ↔ port = port' := by
  rw [socketName, socketName, List.append_cancel_left_eq, portDigits_inj]

theorem components_socketName (port : UInt16) : components (socketName port) = [socketName port] := by
  have hmarker : '/' ∉ socketMarker.toList := by decide
  have hslash : '/' ∉ socketName port := by
    rw [socketName, List.mem_append, not_or]
    exact ⟨hmarker, not_mem_portDigits (by decide) port⟩
  have hlength : 2 ≤ (socketName port).length := by
    have hten : socketMarker.toList.length = 10 := by decide
    rw [socketName, List.length_append, hten]
    omega
  apply components_of_no_slash hslash
  · intro heq
    rw [heq, List.length_nil] at hlength
    omega
  · intro heq
    rw [heq, List.length_singleton] at hlength
    omega

theorem socketPath_eq (directory : List Char) (port : UInt16) :
    socketPath directory port
      = if directory.getLast? = some '/' then directory ++ socketName port
        else directory ++ '/' :: socketName port := by
  rw [socketPath, socketName]
  split
  next => rw [List.append_nil, List.append_assoc]
  next => simp only [List.append_assoc, List.cons_append, List.nil_append]

/-- **The path of a socket file** has the components of its directory, and its name. -/
theorem components_socketPath (directory : List Char) (port : UInt16) :
    components (socketPath directory port) = components directory ++ [socketName port] := by
  rw [socketPath_eq]
  split
  next hlast =>
    -- the slash that the directory ends in stands between the two
    obtain ⟨path, rfl⟩ := List.getLast?_eq_some_iff.mp hlast
    rw [List.append_assoc, List.singleton_append, components_append_slash,
      components_append_slash_nil, components_socketName]
  next => rw [components_append_slash, components_socketName]

/-! ## Targets of hosts -/

variable {host host' : String}

theorem ofHost_of_tcp (h : host.toList.head? ≠ some '/') (port : UInt16) :
    ofHost host port = .tcp host port := by
  rw [ofHost, if_neg h]

theorem ofHost_of_directory (h : host.toList.head? = some '/')
    (hmarker : ¬ socketMarker.toList <:+: host.toList) (port : UInt16) :
    ofHost host port = .socket (String.ofList (socketPath host.toList port)) := by
  rw [ofHost, if_pos h, if_neg (mt Text.holds_iff.mp hmarker)]

/-- A host that begins with a slash makes a socket target. -/
theorem exists_path_of_ofHost (h : host.toList.head? = some '/') (port : UInt16) :
    ∃ path, ofHost host port = .socket path := by
  rw [ofHost, if_pos h]
  split
  next => exact ⟨_, rfl⟩
  next => exact ⟨_, rfl⟩

theorem sameAs_directories_iff (h : host.toList.head? = some '/')
    (h' : host'.toList.head? = some '/') (hmarker : ¬ socketMarker.toList <:+: host.toList)
    (hmarker' : ¬ socketMarker.toList <:+: host'.toList) (port port' : UInt16) :
    (ofHost host port).sameAs (ofHost host' port') = true
      ↔ components host.toList = components host'.toList ∧ port = port' := by
  rw [ofHost_of_directory h hmarker, ofHost_of_directory h' hmarker', sameAs, decide_eq_true_iff,
    String.toList_ofList, String.toList_ofList, components_socketPath, components_socketPath,
    ← List.concat_eq_append, ← List.concat_eq_append, List.concat_inj, socketName_inj]

theorem sameAs_tcp_iff (h : host.toList.head? ≠ some '/') (h' : host'.toList.head? ≠ some '/')
    (port port' : UInt16) :
    (ofHost host port).sameAs (ofHost host' port') = true ↔ host = host' ∧ port = port' := by
  rw [ofHost_of_tcp h, ofHost_of_tcp h', sameAs, Bool.and_eq_true, decide_eq_true_iff,
    decide_eq_true_iff]

end Target

/-- **The identity of targets.** A host that begins with a slash makes a socket target, and the path
of that target makes it again with any port. Two directories make the same target exactly if they
are the same path and the ports are equal; two other hosts, exactly if hosts and ports are equal.
No TCP target is the same as a socket target. -/
theorem target_identity :
    (∀ host : String, host.toList.head? = some '/' → ∀ port port' : UInt16, ∃ path,
      Target.ofHost host port = .socket path ∧
        Target.ofHost path port' = Target.ofHost host port) ∧
    (∀ host host' : String, host.toList.head? = some '/' → host'.toList.head? = some '/' →
      ¬ socketMarker.toList <:+: host.toList → ¬ socketMarker.toList <:+: host'.toList →
      ∀ port port' : UInt16,
        (Target.ofHost host port).sameAs (Target.ofHost host' port') = true ↔
          Target.components host.toList = Target.components host'.toList ∧ port = port') ∧
    (∀ host host' : String, host.toList.head? ≠ some '/' → host'.toList.head? ≠ some '/' →
      ∀ port port' : UInt16,
        (Target.ofHost host port).sameAs (Target.ofHost host' port') = true ↔
          host = host' ∧ port = port') ∧
    ∀ host : String, host.toList.head? ≠ some '/' → ∀ (port : UInt16) (path : String),
      (Target.ofHost host port).sameAs (.socket path) = false ∧
        (Target.socket path).sameAs (Target.ofHost host port) = false := by
  refine ⟨?_, ?_, ?_, ?_⟩
  · intro host h port port'
    obtain ⟨path, hpath⟩ := Target.exists_path_of_ofHost h port
    -- the host of a socket target is its path, and any port may stand beside it
    have hadmits : (Target.ofHost host port).Admits port' := by
      rw [hpath]
      trivial
    have hagain := Target.ofHost_hostText hadmits
    rw [hpath] at hagain
    exact ⟨path, hpath, hpath ▸ hagain⟩
  · exact fun _ _ h h' hmarker hmarker' => Target.sameAs_directories_iff h h' hmarker hmarker'
  · exact fun _ _ h h' => Target.sameAs_tcp_iff h h'
  · intro host h port path
    rw [Target.ofHost_of_tcp h]
    exact ⟨rfl, rfl⟩

/-- One directory in two spellings, a path that leads through a parent, two hosts that differ in the
port only, and a host beside a socket. -/
theorem target_identity_of_spellings :
    (∃ path, Target.ofHost "/run//edgedb/./" 5656 = .socket path ∧
      Target.ofHost path 7 = Target.ofHost "/run//edgedb/./" 5656) ∧
    (Target.ofHost "/run//edgedb/./" 5656).sameAs (Target.ofHost "/run/edgedb" 5656) = true ∧
    (Target.ofHost "/run/../edgedb" 5656).sameAs (Target.ofHost "/edgedb" 5656) ≠ true ∧
    (Target.ofHost "db" 5656).sameAs (Target.ofHost "db" 5657) ≠ true ∧
    (Target.ofHost "db" 5656).sameAs (.socket "db") = false := by
  obtain ⟨hkept, hdirectories, htcp, hmixed⟩ := target_identity
  have hmarker : ∀ host ∈ ["/run//edgedb/./", "/run/edgedb", "/run/../edgedb", "/edgedb"],
      ¬ socketMarker.toList <:+: host.toList := by
    simp only [← Text.holds_iff]
    decide +kernel
  simp only [List.forall_mem_cons] at hmarker
  obtain ⟨hspelled, hplain, hparent, hroot, -⟩ := hmarker
  refine ⟨hkept _ (by decide +kernel) 5656 7, ?_, ?_, ?_, ?_⟩
  · apply (hdirectories _ _ (by decide +kernel) (by decide +kernel) hspelled hplain 5656 5656).mpr
    exact ⟨by decide +kernel, rfl⟩
  · apply mt (hdirectories _ _ (by decide +kernel) (by decide +kernel) hparent hroot 5656 5656).mp
    exact fun h => absurd h.1 (by decide +kernel)
  · apply mt (htcp _ _ (by decide +kernel) (by decide +kernel) 5656 5657).mp
    exact fun h => absurd h.2 (by decide)
  · exact (hmixed "db" (by decide +kernel) 5656 "db").1

end SessionPlan
