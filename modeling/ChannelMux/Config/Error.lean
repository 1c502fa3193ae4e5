import ChannelMux.Error

/-!
Why a configuration is refused.
-/
namespace ChannelMux

inductive ConfigError where
  /-- The text is no JSON, or not of the shape of a configuration. -/
  | malformed
  | noConnections
  /-- A private connection, named by its label, has no credentials. -/
  | noCredentials (label : String)
  | emptyCredentials (label : String)
  | noPassphrase (label : String)
  | unknownCategory (label category : String)
  | unknownExchange (name : String)
  /-- The address cannot be connected to. -/
  | address (cause : Error)
  /-- The file could not be read. -/
  | reading (path problem : String)
  /-- The file was read but holds no usable configuration. -/
  | parsing (path : String) (cause : ConfigError)
deriving DecidableEq, Repr

namespace ConfigError

def message : ConfigError → String
  | malformed => "malformed configuration"
  | noConnections => "no connections configured"
  | noCredentials label => "connection " ++ label ++ " is private but has no credentials"
  | emptyCredentials label => "connection " ++ label ++ ": api_key and secret_key must be set"
  | noPassphrase label => "connection " ++ label ++ ": OKX login needs a passphrase"
  | unknownCategory label category =>
    "connection " ++ label ++ ": unknown Bybit category " ++ category
  | unknownExchange name => "Unknown exchange: " ++ name
  | address cause => cause.message
  | reading path problem => "reading config " ++ path ++ ": " ++ problem
  | parsing path cause => "parsing config " ++ path ++ ": " ++ cause.message

/-- The innermost cause. -/
def root : ConfigError → ConfigError
  | parsing _ cause => cause.root
  | cause => cause

end ConfigError

end ChannelMux
