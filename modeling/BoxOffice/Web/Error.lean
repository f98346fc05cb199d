import BoxOffice.Text.Basic

/-! # Why a server stops -/

namespace BoxOffice.Web

/-- Why a server does not start or does not go on. What another system says of it is kept. -/
inductive ServerError where
  /-- It cannot listen at its address. -/
  | bind (address cause : Text)
  /-- It cannot go on serving. -/
  | serve (cause : Text)
  /-- The metrics recorder cannot be built. -/
  | metricsBuild (cause : Text)
  /-- The metrics recorder cannot be installed. -/
  | metricsInstall (cause : Text)
  deriving Repr, DecidableEq

def ServerError.message : ServerError → Text
  | .bind address cause => "Failed to bind " ++ address ++ ": " ++ cause
  | .serve cause => "Server error: " ++ cause
  | .metricsBuild cause => "Failed to build metrics exporter: " ++ cause
  | .metricsInstall cause => "Failed to install metrics exporter: " ++ cause

end BoxOffice.Web
