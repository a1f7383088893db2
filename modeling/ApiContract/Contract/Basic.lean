import ApiContract.Digest.Sha256
import ApiContract.Document.Text
import ApiContract.Route.Router

/-!
# Contracts

A contract is a document made ready for judging requests: its routes can be searched,
and the digest of its content is kept.
-/

namespace ApiContract

/-- A document that is ready for judging requests. -/
structure Contract where
  version : String
  info : Option Info
  router : Router
  components : Components
  security : List SecurityRequirement
  digest : List UInt8

namespace Contract

/-- The contract of a document with a digest. -/
def ofDocument (document : Document) (digest : List UInt8) : Except Failure Contract := do
  let router ← Router.ofPaths document.paths
  return { version := document.version, info := document.info, router,
           components := document.components.getD {}, security := document.security, digest }

/-- Reads a contract. -/
def parse (content : List UInt8) : Except Failure Contract := do
  ofDocument (← Document.parse content) (Sha256.digest content)

end Contract
end ApiContract
