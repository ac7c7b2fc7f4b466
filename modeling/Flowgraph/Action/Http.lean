import Flowgraph.Action.Step
import Flowgraph.Data.Template
import Flowgraph.Text.Case

/-! HTTP requests. Whatever status comes back is a result; it goes into the data bag with the body
and the headers. -/

namespace Flowgraph.Action

def request (config : HttpCall) (data : Json) : HttpRequest where
  method := config.method
  url := Template.resolve config.url data
  headers := (config.headers.getD []).map fun (name, value) => (name, Template.resolve value data)
  body := config.body.map (Template.resolveDeep data)

def responseFields (r : HttpResponse) : Fields :=
  [("httpResponse", r.body), ("httpStatus", .ofNat r.status), ("httpHeaders", .object r.headers)]

def http (caps : Capabilities σ) (nodeId : String) (config : HttpCall) : Step σ Flow := do
  let request := request config (← Step.context).data
  let response ← Step.outside (caps.call (.http request))
  Step.log caps nodeId .info "http_request"
    s!"{Text.upper config.method} {request.url} responded with {response.status}"
  Step.change (·.merge (responseFields response))
  return .next

end Flowgraph.Action
