import GatewayProvisioning.Proofs.InstalledPair

/-!
# A pair in its place

Installing a certificate and its key is one row of effects on what was read before. When the whole row
is done, both stand where their paths lead, and nothing else has changed but that folders have come.
-/

namespace GatewayProvisioning

open Disk Install

namespace Pem

theorem validatePair_eq_ok {cert key : Bytes} {certName keyName : String}
    (h : validatePair cert certName key keyName = .ok ()) :
    (∃ count, countCertificates cert certName = .ok count ∧ 0 < count) ∧
      hasPrivateKey key keyName = .ok true := by
  obtain ⟨count, hcount, h⟩ := exists_of_bind_eq_ok h
  by_cases hnone : count = 0
  · rw [if_pos hnone] at h
    cases h
  · rw [if_neg hnone] at h
    obtain ⟨found, hfound, h⟩ := exists_of_bind_eq_ok h
    cases found with
    | false => cases h
    | true => exact ⟨⟨count, hcount, Nat.pos_of_ne_zero hnone⟩, hfound⟩

end Pem

namespace TlsDestination

variable (t : TlsDestination) {certPath keyPath : String} {d last : Disk} {cert key : Bytes}

/-- What is done for the certificate and then for the key. -/
def pairEffects (cert key : Bytes) : List FileEffect :=
  t.certEffects cert ++ t.keyEffects key

theorem inputs_eq_ok (h : inputs certPath keyPath d = .ok (cert, key)) :
    d.read certPath = .ok cert ∧ d.read keyPath = .ok key ∧
      Pem.validatePair cert certPath key keyPath = .ok () := by
  obtain ⟨cert', hcert, h⟩ := exists_of_bind_eq_ok h
  obtain ⟨key', hkey, h⟩ := exists_of_bind_eq_ok h
  obtain ⟨⟨⟩, hvalid, h⟩ := exists_of_bind_eq_ok h
  cases h
  exact ⟨mapError_eq_ok.mp hcert, mapError_eq_ok.mp hkey, hvalid⟩

/-- Both inputs are read and looked at before the first effect. -/
theorem install_eq_run (h : inputs certPath keyPath d = .ok (cert, key)) :
    t.install certPath keyPath d =
      ((d.run (t.pairEffects cert key)).2.map fun _ => (t.certTarget, t.keyTarget),
        (d.run (t.pairEffects cert key)).1) := by
  rw [install_of_inputs_ok t h, pairEffects]
  rcases hcert : d.run (t.certEffects cert) with ⟨middle, failure | ⟨⟨⟩⟩⟩
  · rw [run_append_of_error hcert, FileAction.bind_of_error (FileAction.file_of_error hcert)]
    rfl
  · rw [run_append_of_ok hcert, FileAction.bind_of_ok (FileAction.file_of_ok hcert)]
    rcases hkey : middle.run (t.keyEffects key) with ⟨after, failure | ⟨⟨⟩⟩⟩
    · rw [FileAction.bind_of_error (FileAction.file_of_error hkey)]
      rfl
    · rw [FileAction.bind_of_ok (FileAction.file_of_ok hkey)]
      rfl

theorem finalMode_keyMode (owner : Option Owner) : finalMode keyMode owner = keyMode := by
  cases owner with
  | none => rfl
  | some owner => exact (by decide : givenAway keyMode = keyMode)

theorem run_pairEffects_ok (hcert : cert ≠ []) (hkey : key ≠ [])
    (hplaces : place t.certTarget ≠ place t.keyTarget)
    (h : d.run (t.pairEffects cert key) = (last, .ok ())) :
    last.locate t.certTarget = .ok (place t.certTarget) ∧
    last.locate t.keyTarget = .ok (place t.keyTarget) ∧
    last.get? (place t.certTarget) = some (.file cert certMode) ∧
    last.get? (place t.keyTarget) = some (.file key keyMode) ∧
    ∀ l, l ≠ place t.certTarget → l ≠ place t.keyTarget → KeptAt d last l := by
  rcases hfirst : d.run (t.certEffects cert) with ⟨middle, failure | ⟨⟨⟩⟩⟩
  · rw [pairEffects, run_append_of_error hfirst] at h
    cases h
  rw [pairEffects, run_append_of_ok hfirst] at h
  obtain ⟨before, ⟨hgains, -, hleads, htakes⟩, rfl⟩ := run_effects_ok hcert hfirst
  obtain ⟨between, ⟨hgains', -, hleads', htakes'⟩, rfl⟩ := run_effects_ok hkey h
  rw [finalMode_certMode] at hgains'
  rw [finalMode_keyMode]
  have hkeeps := keepsFolders_put htakes'.ne_folder (.file key keyMode)
  have hcertleads := hgains'.keepsFolders.locate ((keepsFolders_put htakes.ne_folder _).locate hleads)
  refine ⟨hkeeps.locate hcertleads, hkeeps.locate hleads', ?_, get?_put_self _ _ _, ?_⟩
  · exact (get?_put_other between hplaces _).trans ((hgains' _).of_some (get?_put_self before _ _))
  · intro l hl hl'
    exact (hgains.around_put hgains' hl).trans (.inl (get?_put_other between hl' _))

/-- A pair that was installed is the one that was read, and it was in order. It stands where the two
paths lead, whatever stood there before and even if an input was read from there. -/
theorem install_ok {paths : String × String} (hplaces : place t.certTarget ≠ place t.keyTarget)
    (h : t.install certPath keyPath d = (.ok paths, last)) :
    ∃ cert key, d.read certPath = .ok cert ∧ d.read keyPath = .ok key ∧
      (∃ count, Pem.countCertificates cert certPath = .ok count ∧ 0 < count) ∧
      Pem.hasPrivateKey key keyPath = .ok true ∧
      paths = (t.certTarget, t.keyTarget) ∧
      last.locate t.certTarget = .ok (place t.certTarget) ∧
      last.locate t.keyTarget = .ok (place t.keyTarget) ∧
      last.get? (place t.certTarget) = some (.file cert 0o644) ∧
      last.get? (place t.keyTarget) = some (.file key 0o600) ∧
      ∀ l, l ≠ place t.certTarget → l ≠ place t.keyTarget → KeptAt d last l := by
  rcases hinputs : inputs certPath keyPath d with failure | ⟨cert, key⟩
  · rw [install_of_inputs_error t hinputs] at h
    cases h
  · obtain ⟨hcert, hkey, hvalid⟩ := inputs_eq_ok hinputs
    obtain ⟨hcertne, hkeyne⟩ := inputs_ne_nil hinputs
    obtain ⟨hcount, hfound⟩ := Pem.validatePair_eq_ok hvalid
    rw [install_eq_run t hinputs] at h
    rcases hrun : d.run (t.pairEffects cert key) with ⟨after, failure | ⟨⟨⟩⟩⟩
    · rw [hrun] at h
      cases h
    · rw [hrun] at h
      cases h
      exact ⟨cert, key, hcert, hkey, hcount, hfound, rfl,
        run_pairEffects_ok t hcertne hkeyne hplaces hrun⟩

/-- A certificate in the place where it is to be installed, and a longer key before the new one. -/
def renewedKey : Disk :=
  disk [("ssl/kong.crt", newCert), ("in.key", newKey), ("ssl/kong.key", List.replicate 100 0x2D)]

theorem install_ok_renewedKey :
    ∃ cert key last, pairInFolder.install "ssl/kong.crt" "in.key" renewedKey =
        (.ok ("ssl/kong.crt", "ssl/kong.key"), last) ∧
      renewedKey.read "ssl/kong.crt" = .ok cert ∧ renewedKey.read "in.key" = .ok key ∧
      last.get? ["ssl", "kong.crt"] = some (.file cert 0o644) ∧
      last.get? ["ssl", "kong.key"] = some (.file key 0o600) ∧
      KeptAt renewedKey last ["in.key"] := by
  have hsome : (pairInFolder.install "ssl/kong.crt" "in.key" renewedKey).1.toOption.isSome = true := by
    decide +kernel
  have hplaces : place pairInFolder.certTarget = ["ssl", "kong.crt"] ∧
      place pairInFolder.keyTarget = ["ssl", "kong.key"] := by
    decide +kernel
  rcases hrun : pairInFolder.install "ssl/kong.crt" "in.key" renewedKey with ⟨failure | paths, last⟩
  · rw [hrun] at hsome
    cases hsome
  · have hinstalled := install_ok pairInFolder (by rw [hplaces.1, hplaces.2]; decide) hrun
    rw [hplaces.1, hplaces.2] at hinstalled
    obtain ⟨cert, key, hcert, hkey, -, -, hpaths, -, -, hnew, hnewkey, hothers⟩ := hinstalled
    rw [hpaths]
    exact ⟨cert, key, last, rfl, hcert, hkey, hnew, hnewkey, hothers _ (by decide) (by decide)⟩

end TlsDestination

end GatewayProvisioning
