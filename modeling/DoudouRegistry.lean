import DoudouRegistry.Strings
import DoudouRegistry.Time
import DoudouRegistry.NewConf
import DoudouRegistry.Seeds
import DoudouRegistry.Membership
import DoudouRegistry.Registration
import DoudouRegistry.Facade
import DoudouRegistry.Advertised
import DoudouRegistry.HttpRouter
import DoudouRegistry.IClient
