/-
Which faults show a password.

Two connection strings differ in the password of their user information. If both passwords can be
decoded, the two have the same faults: none of them repeats a password. One that cannot be decoded
is itself a fault, which repeats it as it is written. That fault is reported where the query and the
user, which are decoded first, have none; otherwise theirs is the fault of every password.
-/
import SessionPlan.Proofs.PasswordFlow

set_option autoImplicit false

namespace SessionPlan

namespace Dsn

/-! ## Passwords and what stands before them -/

/-- A password whose bytes, once decoded, are those of some text. -/
def RawPassword.Decodable (password : RawPassword) : Prop :=
  ∃ text, DecodesTo password.written text

namespace Layout

variable {layout : Layout} {password password' : RawPassword}

/-- What is decoded before a password can be: no field lacks an equals sign, and the user has a
text. -/
structure ReadableToPassword (layout : Layout) : Prop where
  fields : ∀ field ∈ layout.fields, '=' ∈ field
  user : ∃ text, DecodesTo layout.user text

/-! ## Faults of the text -/

/-- **An undecodable password is reported** if nothing in front of it is at fault. -/
theorem parse_withPassword_of_readable (hplace : layout.userInfo?.isSome = true)
    (h : layout.ReadableToPassword) (hlacks : ¬ password.Decodable) :
    parse (layout.withPassword password).text = .error (undecodable password.written) := by
  have hpieces : [(layout.withPassword password).user, (layout.withPassword password).password,
      (layout.withPassword password).database]
      = [layout.user] ++ password.written :: [(layout.withPassword password).database] := by
    rw [user_withPassword hplace, password_withPassword hplace]
    rfl
  refine parse_eq_error_iff.mpr (.piece h.fields hpieces ?_ hlacks)
  intro piece hpiece
  rw [List.mem_singleton.mp hpiece]
  exact h.user

/-- **A fault in front of the password** is the fault of every password. -/
theorem exists_fault_of_not_readable (hplace : layout.userInfo?.isSome = true)
    (h : ¬ layout.ReadableToPassword) :
    ∃ e, ∀ password, parse (layout.withPassword password).text = .error e := by
  -- the query of the layout is that of all the others
  cases hquery : readQuery (layout.query.getD []) with
  | error e =>
    refine ⟨e, fun password => ?_⟩
    rw [parse_text]
    exact decode_parts_eq_error_iff.mpr (Or.inl hquery)
  | ok query =>
    have hfields := (readQuery_eq_ok_iff.mp hquery).1
    have hlacks : ¬ ∃ text, DecodesTo layout.user text := fun huser => h ⟨hfields, huser⟩
    refine ⟨undecodable layout.user, fun password => ?_⟩
    have hpieces : [(layout.withPassword password).user, (layout.withPassword password).password,
        (layout.withPassword password).database]
        = [] ++ layout.user :: [password.written, (layout.withPassword password).database] := by
      rw [user_withPassword hplace, password_withPassword hplace]
      rfl
    exact parse_eq_error_iff.mpr
      (.piece hfields hpieces (fun _ hpiece => absurd hpiece List.not_mem_nil) hlacks)

/-- **Decodable passwords** are read alike. -/
theorem alike_parse_withPassword (hplace : layout.userInfo?.isSome = true)
    (h : password.Decodable) (h' : password'.Decodable) :
    Alike SameBesidePassword (parse (layout.withPassword password).text)
      (parse (layout.withPassword password').text) := by
  obtain ⟨value, hvalue⟩ := exists_standsFor_iff.mpr h
  obtain ⟨value', hvalue'⟩ := exists_standsFor_iff.mpr h'
  rw [parse_text, parse_text, parts_withPassword hplace, parts_withPassword hplace]
  apply (alike_decode_of_password (decodePart_eq_ok_iff.mpr hvalue)
    (decodePart_eq_ok_iff.mpr hvalue')).imp
  rintro dsn dsn' ⟨hsame, -⟩
  exact hsame

end Layout

end Dsn

/-! ## Faults of a resolution -/

/-- Connection strings that agree beside their passwords have the same faults. -/
theorem Resolution.alike_ofDsn_of_same {dsn dsn' : Dsn} (h : dsn.SameBesidePassword dsn')
    (args : Arguments) (env : Environment) :
    Alike (fun _ _ => True) (ofDsn args dsn env) (ofDsn args dsn' env) := by
  rw [(SeesSame.of_dsn h args env).ofDsn_eq]
  cases ofDsn args dsn env with
  | error e => exact .fault e
  | ok r => exact .value trivial

/-- **What faults show of a password.** Two passwords that can be decoded have the same faults, both
when the connection string is read and when it is resolved, so that none of them shows a password.
A password that cannot be decoded is shown, as it is written, by the fault that reports it; unless
the query or the user is at fault, in which case the fault is that of every password. -/
theorem faults_beside_password {layout : Dsn.Layout} (hplace : layout.userInfo?.isSome = true)
    (args : Arguments) (env : Environment) :
    let text (password : Dsn.RawPassword) : String := (layout.withPassword password).text
    let run (password : Dsn.RawPassword) : Except ParameterError Resolution :=
      resolve { args with dsn := some (text password) } env
    (∀ password password', password.Decodable → password'.Decodable → ∀ e,
      (Dsn.parse (text password) = .error e ↔ Dsn.parse (text password') = .error e) ∧
      (run password = .error e ↔ run password' = .error e)) ∧
    (layout.ReadableToPassword → ∀ password, ¬ password.Decodable →
      Dsn.parse (text password) = .error (Dsn.undecodable password.written) ∧
      run password = .error (Dsn.undecodable password.written)) ∧
    (¬ layout.ReadableToPassword → ∃ e, ∀ password,
      Dsn.parse (text password) = .error e ∧ run password = .error e) := by
  intro text run
  have hrun : ∀ password, run password
      = Dsn.parse (text password) >>= fun dsn => Resolution.ofDsn args dsn env :=
    fun password => Resolution.resolve_of_layout args _ env
  refine ⟨?_, ?_, ?_⟩
  · intro password password' h h' e
    have hparse := Dsn.Layout.alike_parse_withPassword hplace h h'
    refine ⟨hparse.error_iff e, ?_⟩
    rw [hrun, hrun]
    exact (hparse.bind fun dsn dsn' hsame =>
      Resolution.alike_ofDsn_of_same hsame args env).error_iff e
  · intro hreadable password hlacks
    have hparse := Dsn.Layout.parse_withPassword_of_readable hplace hreadable hlacks
    refine ⟨hparse, ?_⟩
    rw [hrun, hparse]
    rfl
  · intro hfault
    obtain ⟨e, hparse⟩ := Dsn.Layout.exists_fault_of_not_readable hplace hfault
    refine ⟨e, fun password => ⟨hparse password, ?_⟩⟩
    rw [hrun, hparse]
    rfl

/-- A port that is none is reported alike beside two passwords, and before it one that is not UTF-8
once decoded. -/
theorem faults_beside_password_of_port :
    let layout : Dsn.Layout := {
      authority := some {
        userInfo := some ⟨"alice".toList, none, by simp, by simp⟩
        hostList := "h:http".toList
        hostList_free := by simp }
      path := []
      query := none
      fragment := none
      path_start := by decide
      path_free := by simp
      query_free := by simp }
    let env : Environment := ⟨fun _ => none, none, .unix⟩
    let run (password : Dsn.RawPassword) :=
      resolve { dsn := some (layout.withPassword password).text } env
    let password : Dsn.RawPassword := ⟨"a@b".toList, by simp⟩
    let password' : Dsn.RawPassword := ⟨"%20%C3%A9".toList, by simp⟩
    let undecodable : Dsn.RawPassword := ⟨"%ff".toList, by simp⟩
    run password = .error (.invalidPort "http" "host list") ∧
      run password' = .error (.invalidPort "http" "host list") ∧
      run undecodable = .error (.invalidDsn "\"%ff\" is not valid UTF-8 once decoded") := by
  intro layout env run password password' undecodable
  have hplace : layout.userInfo?.isSome = true := rfl
  have hreadable : layout.ReadableToPassword :=
    ⟨by decide, Dsn.exists_standsFor_iff.mp ⟨some "alice", Dsn.decodePart_eq_ok_iff.mp rfl⟩⟩
  have h : password.Decodable :=
    Dsn.exists_standsFor_iff.mp ⟨some "a@b", Dsn.decodePart_eq_ok_iff.mp rfl⟩
  have h' : password'.Decodable :=
    Dsn.exists_standsFor_iff.mp ⟨some " é", Dsn.decodePart_eq_ok_iff.mp rfl⟩
  have hlacks : ¬ undecodable.Decodable := (Dsn.decodePart_eq_error_iff.mp rfl).1
  have hquoted : Dsn.undecodable undecodable.written
      = .invalidDsn "\"%ff\" is not valid UTF-8 once decoded" := by decide +kernel
  have htext : (layout.withPassword password).text = "edgedb://alice:a@b@h:http" := by rfl
  obtain ⟨hsame, hshown, -⟩ := faults_beside_password hplace {} env
  have hport : run password = .error (.invalidPort "http" "host list") := by
    show resolve { dsn := some (layout.withPassword password).text } env = _
    rw [htext]
    rfl
  rw [← hquoted]
  exact ⟨hport, (hsame password password' h h' _).2.mp hport,
    (hshown hreadable undecodable hlacks).2⟩

/-- The same fault, in the database, is reported beside one password and not beside another one,
which is reported in its place. Neither password has an `@`. -/
theorem undecodable_password_is_shown :
    ¬ ∀ (layout : Dsn.Layout) (password password' : Dsn.RawPassword) (e e' : ParameterError),
      layout.userInfo?.isSome = true → '@' ∉ password.written → '@' ∉ password'.written →
      Dsn.parse (layout.withPassword password).text = .error e →
      Dsn.parse (layout.withPassword password').text = .error e' → e = e' := by
  intro h
  let layout : Dsn.Layout := {
    authority := some {
      userInfo := some ⟨"alice".toList, none, by simp, by simp⟩
      hostList := "h".toList
      hostList_free := by simp }
    path := "/%ff".toList
    query := none
    fragment := none
    path_start := by decide
    path_free := by simp
    query_free := by simp }
  let ok : Dsn.RawPassword := ⟨"ok".toList, by simp⟩
  let undecodable : Dsn.RawPassword := ⟨"%fe".toList, by simp⟩
  have htext : (layout.withPassword ok).text = "edgedb://alice:ok@h/%ff" := by rfl
  have htext' : (layout.withPassword undecodable).text = "edgedb://alice:%fe@h/%ff" := by rfl
  have hsame := h layout ok undecodable (Dsn.undecodable "%ff".toList)
    (Dsn.undecodable "%fe".toList) rfl (by simp [ok]) (by simp [undecodable]) (by rw [htext]; rfl)
    (by rw [htext']; rfl)
  exact absurd hsame (by decide +kernel)

end SessionPlan
