import RouterPlanner.Query
import RouterPlanner.Catalog
import RouterPlanner.Irreducible
import RouterPlanner.RelationShards
import RouterPlanner.Placement
import RouterPlanner.PlanRouterQuery
import RouterPlanner.ModifyQuerySupported
import RouterPlanner.Insert
import RouterPlanner.RouterJob
import RouterPlanner.Plans
