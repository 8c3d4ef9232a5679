/-! # Categories of the system configuration

Nine categories have names of their own; every other name is a category too.
-/

namespace RpcTransport

inductive Category where
  | db
  | pubSub
  | so
  | microservices
  | orchestrator
  | repository
  | cluster
  | ldap
  | containerRegistry
  | other (name : String)
  deriving Repr, DecidableEq

namespace Category

def name : Category → String
  | db => "db"
  | pubSub => "pubsub"
  | so => "so"
  | microservices => "microservices"
  | orchestrator => "orchestratorclient"
  | repository => "repository"
  | cluster => "cluster"
  | ldap => "ldap"
  | containerRegistry => "containerregistry"
  | other name => name

def ofName : String → Category
  | "db" => db
  | "pubsub" => pubSub
  | "so" => so
  | "microservices" => microservices
  | "orchestratorclient" => orchestrator
  | "repository" => repository
  | "cluster" => cluster
  | "ldap" => ldap
  | "containerregistry" => containerRegistry
  | name => other name

end Category

end RpcTransport
