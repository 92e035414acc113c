import PollAudit.Api.Error
import PollAudit.Url.Extend

namespace PollAudit

/-- The service, found under a base URL that paths can be added to, and the milliseconds that it
may take to answer. -/
structure Api where
  base : Url
  timeout : Nat
  isFixed_path : base.path.isFixed = false

namespace Api

def ofUrl (base : Url) (timeout : Nat) : Except ApiError Api :=
  if h : base.path.isFixed = false then .ok ⟨base, timeout, h⟩
  else .error (.unusableBase base.text)

/-- A place below the base. -/
def endpoint (api : Api) (names : List String) : Url := api.base.extend ("api" :: names)

/-- The networks without their devices. -/
def listing (api : Api) : Url := api.endpoint ["networks"]

/-- The networks with their devices and points. -/
def tree (api : Api) : Url :=
  (api.endpoint ["networks"]).addQuery "with_devices=true&with_points=true"

/-- The polling statistics of a network, which the plugin that serves it keeps. -/
def stats (api : Api) (plugin network : String) : Url :=
  api.endpoint ["modules", plugin, "api", "polling", "stats", "network", "name", network]

end Api

end PollAudit
