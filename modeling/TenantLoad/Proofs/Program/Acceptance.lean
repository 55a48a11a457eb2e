import TenantLoad.Program.Tasks
import TenantLoad.Proofs.Config.Validation
import TenantLoad.Proofs.Url.Base

/-!
# Settings that are accepted

Settings within bounds have a URL that endpoints are found below and a pattern that
can be read.  A load run with them can begin, and every tenant gets its connection
unless the user agent may not stand in a header, which no bound forbids.
-/

namespace TenantLoad
namespace Config

variable {config : Config} {isDirectory : String → Bool}

/-- Services are reached by URLs that endpoints are found below. -/
theorem isBase_of_schemes
    {url : Url}
    {text : String}
    (isRead : Url.parse text = .ok url)
    (isScheme : Check.schemes.contains url.scheme = true) :
    url.isBase = true :=
  Url.isBase_of_parse isRead (Check.special_of_schemes isScheme).1

/-- Settings within bounds have a URL and a pattern that can be read. -/
theorem of_validate_eq_ok
    (isValid : config.validate isDirectory = .ok ()) :
    (∃ url, Url.parse config.target.baseUrl = .ok url ∧ url.isBase = true) ∧
      (Pattern.read? false config.retry.bodyPattern).isSome = true := by
  simp only [validate, Except.bind_eq_ok_iff] at isValid
  obtain ⟨⟨⟩, target, ⟨⟩, workload, ⟨⟩, retry, -⟩ := isValid
  obtain ⟨-, url, isRead, isScheme⟩ := Check.url_eq_ok_iff.mp target
  simp only [RetryRules.validate, Except.bind_eq_ok_iff] at retry
  obtain ⟨⟨⟩, -, ⟨⟩, -, ⟨⟩, -, pattern⟩ := retry
  exact ⟨⟨url, isRead, isBase_of_schemes isRead isScheme⟩, Check.pattern_eq_ok_iff.mp pattern⟩

end Config

namespace Program

open TenantLoad.Run (setUp)

variable {config : Config} {isDirectory : String → Bool}

theorem setUp_isOk_iff :
    (∃ settings, setUp config = .ok settings) ↔
      (Pattern.read? true config.retry.bodyPattern).isSome = true := by
  unfold setUp Config.RetryRules.classifier? Retry.Classifier.ofText?
  cases Pattern.read? true config.retry.bodyPattern <;> simp

/-- Once the URL is fine, the user agent alone decides on a connection. -/
theorem connect_eq_ite
    {url : Url}
    (isRead : Url.parse config.target.baseUrl = .ok url)
    (isBase : url.isBase = true)
    (network : Api.Network)
    (tenant : Nat) :
    (service network config).connect tenant =
      if Api.isHeaderText config.connection.userAgent then .returned ()
      else .failed (.client Api.headerFault) := by
  unfold service Api.Client.connect
  cases isHeader : Api.isHeaderText config.connection.userAgent <;> simp [isRead, isBase]

/-- With settings within bounds a load run can begin, if their pattern can be read
regardless of case as well, and every tenant gets its connection exactly if the
user agent may stand in a header. -/
theorem validate_allows_run
    (isValid : config.validate isDirectory = .ok ())
    (samePattern : (Pattern.read? true config.retry.bodyPattern).isSome =
      (Pattern.read? false config.retry.bodyPattern).isSome) :
    (∃ url, Url.parse config.target.baseUrl = .ok url) ∧
      (∃ settings, setUp config = .ok settings) ∧
      ∀ network tenant, (service network config).connect tenant =
        if Api.isHeaderText config.connection.userAgent then .returned ()
        else .failed (.client Api.headerFault) := by
  obtain ⟨⟨url, isRead, isBase⟩, hasPattern⟩ := Config.of_validate_eq_ok isValid
  exact ⟨⟨url, isRead⟩, setUp_isOk_iff.mpr (samePattern.trans hasPattern),
    connect_eq_ite isRead isBase⟩

/-- Settings for a service with another port and a user agent with a tab. -/
theorem validate_allows_run_with_tab :
    let config : Config :=
      { target := { baseUrl := "https://service.example:8443/api" }
        connection := { userAgent := "load\t1" } }
    config.validate (fun _ => false) = .ok () ∧
      (∃ url, Url.parse config.target.baseUrl = .ok url) ∧
      (∃ settings, setUp config = .ok settings) ∧
      ∀ network tenant, (service network config).connect tenant = .returned () := by
  intro config
  have isValid : config.validate (fun _ => false) = .ok () := by decide +kernel
  obtain ⟨hasUrl, hasSettings, connects⟩ := validate_allows_run isValid (by decide +kernel)
  have isHeader : Api.isHeaderText config.connection.userAgent = true := by decide
  simp only [isHeader, if_true] at connects
  exact ⟨isValid, hasUrl, hasSettings, connects⟩

/-- A user agent with a control character is within bounds, and no tenant gets a
connection with it. -/
theorem validate_allows_unusable_user_agent :
    let config : Config := { connection := { userAgent := "a\x01b" } }
    config.validate (fun _ => false) = .ok () ∧
      ∀ network tenant,
        (service network config).connect tenant = .failed (.client Api.headerFault) := by
  intro config
  have isValid : config.validate (fun _ => false) = .ok () := by decide +kernel
  obtain ⟨⟨url, isRead, isBase⟩, -⟩ := Config.of_validate_eq_ok isValid
  have isNoHeader : Api.isHeaderText config.connection.userAgent = false := by decide
  have connects := connect_eq_ite isRead isBase
  simp only [isNoHeader, Bool.false_eq_true, if_false] at connects
  exact ⟨isValid, connects⟩

end Program
end TenantLoad
