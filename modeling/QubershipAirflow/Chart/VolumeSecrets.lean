import QubershipAirflow.Chart.ConnectionNames

/-! The Secrets that every Airflow pod waits for, against the claims that create them. -/
namespace QubershipAirflow.Chart

variable {values : DeclarativeValues} {lower : String → String} {secret : String}

def DeclarativeValues.Claims (values : DeclarativeValues) (lower : String → String)
    (secret : String) : Prop :=
  ∃ claim ∈ values.databaseSecretClaims lower, claim.secretName = secret

namespace DeclarativeValues

def ConnectionClaims (values : DeclarativeValues) (lower : String → String)
    (secret : String) : Prop :=
  ∃ entry ∈ values.connections, values.connectionSecretName lower entry.1 = secret

theorem claims_iff (enabled : values.enabled = true) :
    values.Claims lower secret ↔ values.pgSecretName = secret ∨
      (values.hasExecutor "CeleryExecutor" = true ∧ values.redisSecretName = secret) ∨
      values.ConnectionClaims lower secret := by
  have hpg : values.pgDatabase.secretName = values.pgSecretName := rfl
  have hredis : values.redisDatabase.secretName = values.redisSecretName := rfl
  have hconnection (entry : String × ConnectionParams) :
      (values.connectionDatabase lower entry).secretName =
        values.connectionSecretName lower entry.1 := rfl
  unfold Claims ConnectionClaims databaseSecretClaims databases
  rw [if_pos enabled]
  cases hcelery : values.hasExecutor "CeleryExecutor" <;>
    simp only [if_true, Bool.false_eq_true, if_false, false_and, false_or, true_and,
      List.nil_append, List.cons_append, List.mem_cons, List.mem_map, exists_eq_or_imp,
      exists_exists_and_eq_and, hpg, hredis, hconnection]

end DeclarativeValues

/-- The pods can start exactly where something claims the broker's Secret too. -/
theorem volumeSecrets_claimed_iff (values : DeclarativeValues) (lower : String → String)
    (enabled : values.enabled = true) :
    (∀ secret ∈ values.volumeSecrets, values.Claims lower secret) ↔
      values.hasExecutor "CeleryExecutor" = true ∨
      values.redisSecretName = values.pgSecretName ∨
      values.ConnectionClaims lower values.redisSecretName := by
  have hpg : values.Claims lower values.pgSecretName :=
    (DeclarativeValues.claims_iff enabled).mpr (.inl rfl)
  have hvolumes : values.volumeSecrets = [values.pgSecretName, values.redisSecretName] := by
    rw [DeclarativeValues.volumeSecrets, if_pos enabled]
  rw [hvolumes, List.forall_mem_cons, List.forall_mem_singleton, and_iff_right hpg,
    DeclarativeValues.claims_iff enabled]
  constructor
  · rintro (hsame | ⟨hcelery, -⟩ | hconnection)
    · exact .inr (.inl hsame.symm)
    · exact .inl hcelery
    · exact .inr (.inr hconnection)
  · rintro (hcelery | hsame | hconnection)
    · exact .inr (.inl ⟨hcelery, rfl⟩)
    · exact .inl hsame.symm
    · exact .inr (.inr hconnection)

theorem orders_secrets_claimed :
    ordersValues.hasExecutor "CeleryExecutor" = true ∧
      ∀ secret ∈ ordersValues.volumeSecrets, ordersValues.Claims lowerAscii secret := by
  have hcelery : ordersValues.hasExecutor "CeleryExecutor" = true := by decide
  exact ⟨hcelery, (volumeSecrets_claimed_iff ordersValues lowerAscii rfl).mpr (.inl hcelery)⟩

def kubernetesValues : DeclarativeValues :=
  declarativeValues "KubernetesExecutor" [] List.nodup_nil

theorem kubernetes_redis_secret_unclaimed :
    ¬ ∀ secret ∈ kubernetesValues.volumeSecrets, kubernetesValues.Claims lowerAscii secret := by
  intro h
  have hredis := h "airflow-dbaas-redis" (by decide)
  rw [DeclarativeValues.claims_iff rfl] at hredis
  rcases hredis with hsame | ⟨hcelery, -⟩ | ⟨entry, hentry, -⟩
  · exact absurd hsame (by decide)
  · exact absurd hcelery (by decide)
  · exact absurd hentry List.not_mem_nil

end QubershipAirflow.Chart
